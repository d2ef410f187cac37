import ImageRecipe.Mapping

/-!
# Insertion

What insertion of many entries leads to: keys that are distinct, entries that were given, and just
those in their order if their keys were distinct before.

* `Mapping.mem_of_get?`, `Mapping.contains_of_get?`, `Mapping.get?_eq_none_iff`,
  `Mapping.get?_eq_some_iff` : a value under a key and the key's entry
* `Mapping.distinct_extend`, `Mapping.distinct_ofList` : no key is there twice
* `Mapping.extend_eq`, `Mapping.ofList_eq` : entries with new and distinct keys are appended
* `Mapping.forall_mem_extend`, `Mapping.forall_mem_ofList` : what holds of all values
-/

namespace ImageRecipe

namespace Mapping

variable {α : Type}

/-- A value under a key is in an entry of that key. -/
theorem mem_of_get? {m : Mapping α} {key : String} {value : α} (h : m.get? key = some value) :
    (key, value) ∈ m.entries := by
  obtain ⟨entries⟩ := m
  simp only [get?] at h ⊢
  induction entries with
  | nil => cases h
  | cons e rest ih =>
      obtain ⟨name, first⟩ := e
      by_cases hkey : name = key
      · simp only [findEntry, hkey, if_true] at h
        cases h
        rw [hkey]
        exact List.mem_cons_self
      · simp only [findEntry, hkey, if_false] at h
        exact List.mem_cons_of_mem _ (ih h)

/-- A key under which there is a value has an entry. -/
theorem contains_of_get? {m : Mapping α} {key : String} {value : α} (h : m.get? key = some value) :
    m.contains key = true :=
  List.any_eq_true.mpr ⟨(key, value), mem_of_get? h, decide_eq_true rfl⟩

/-- There is no value only under a key that has no entry. -/
theorem get?_eq_none_iff {m : Mapping α} {key : String} : m.get? key = none ↔ key ∉ m.keys := by
  obtain ⟨entries⟩ := m
  simp only [get?, keys]
  induction entries with
  | nil => simp [findEntry]
  | cons e rest ih =>
      rw [List.map_cons, List.mem_cons, not_or, findEntry]
      by_cases hkey : e.1 = key
      · simp [hkey]
      · simpa [hkey, Ne.symm hkey] using ih

/-- Where no key is there twice, an entry is what its key stands for. -/
theorem get?_eq_some_iff {m : Mapping α} (h : m.Distinct) {key : String} {value : α} :
    m.get? key = some value ↔ (key, value) ∈ m.entries := by
  refine ⟨mem_of_get?, fun hmem => ?_⟩
  obtain ⟨entries⟩ := m
  simp only [get?] at hmem ⊢
  induction entries with
  | nil => cases hmem
  | cons e rest ih =>
      obtain ⟨name, first⟩ := e
      obtain ⟨hnew, hrest⟩ := List.nodup_cons.mp (show (name :: rest.map Prod.fst).Nodup from h)
      rcases List.mem_cons.mp hmem with heq | hmem
      · cases heq
        exact if_pos rfl
      · have hne : name ≠ key := fun heq => hnew (heq ▸ List.mem_map_of_mem hmem)
        rw [findEntry, if_neg hne, ih hrest hmem]

theorem contains_eq_isSome (m : Mapping α) (key : String) :
    m.contains key = (m.get? key).isSome := by
  rw [Bool.eq_iff_iff, contains_iff, Option.isSome_iff_ne_none, ne_eq, get?_eq_none_iff,
    Classical.not_not]

theorem distinct_empty : (empty : Mapping α).Distinct := List.nodup_nil

theorem distinct_insert {m : Mapping α} (h : m.Distinct) (key : String) (value : α) :
    (m.insert key value).Distinct := by
  unfold Distinct at h ⊢
  rw [keys_insert]
  by_cases hkey : key ∈ m.keys
  · rw [if_pos hkey]
    exact h
  · rw [if_neg hkey, List.nodup_append]
    refine ⟨h, List.nodup_cons.2 ⟨List.not_mem_nil, List.nodup_nil⟩, ?_⟩
    intro name hname other hother
    rw [List.mem_singleton] at hother
    rintro rfl
    exact hkey (hother ▸ hname)

theorem distinct_extend {m : Mapping α} (h : m.Distinct) (other : Mapping α) :
    (m.extend other).Distinct := by
  unfold extend
  generalize other.entries = pairs
  induction pairs generalizing m with
  | nil => exact h
  | cons e rest ih => exact ih (distinct_insert h e.1 e.2)

/-- Whatever is inserted, no key is there twice. -/
theorem distinct_ofList (pairs : List (String × α)) : (ofList pairs).Distinct :=
  distinct_extend distinct_empty ⟨pairs⟩

theorem insertEntry_of_notMem {key : String} {es : List (String × α)}
    (h : key ∉ es.map Prod.fst) (value : α) : insertEntry key value es = es ++ [(key, value)] := by
  induction es with
  | nil => rfl
  | cons e rest ih =>
      rw [List.map_cons, List.mem_cons, not_or] at h
      rw [insertEntry, if_neg (Ne.symm h.1), ih h.2, List.cons_append]

/-- Entries with new and distinct keys are appended as they are. -/
theorem extend_eq (m other : Mapping α) (h : (m.keys ++ other.keys).Nodup) :
    m.extend other = ⟨m.entries ++ other.entries⟩ := by
  obtain ⟨pairs⟩ := other
  unfold extend
  induction pairs generalizing m with
  | nil => simp
  | cons e rest ih =>
      have hnew : e.1 ∉ m.keys := fun hmem =>
        (List.nodup_append.1 h).2.2 e.1 hmem e.1 List.mem_cons_self rfl
      have hinsert : m.insert e.1 e.2 = ⟨m.entries ++ [e]⟩ :=
        congrArg Mapping.mk (insertEntry_of_notMem hnew e.2)
      have hrest : ((⟨m.entries ++ [e]⟩ : Mapping α).keys ++ (⟨rest⟩ : Mapping α).keys).Nodup := by
        simpa [keys] using h
      rw [List.foldl_cons, hinsert, ih _ hrest]
      simp

/-- Insertion keeps pairs with distinct keys as they are. -/
theorem ofList_eq {pairs : List (String × α)} (h : (pairs.map Prod.fst).Nodup) :
    ofList pairs = ⟨pairs⟩ :=
  extend_eq empty ⟨pairs⟩ (by simpa [keys] using h)

theorem mem_insertEntry {key : String} {value : α} {es : List (String × α)} {e : String × α}
    (h : e ∈ insertEntry key value es) : e.2 = value ∨ e ∈ es := by
  induction es with
  | nil =>
      rw [insertEntry, List.mem_singleton] at h
      exact .inl (h ▸ rfl)
  | cons first rest ih =>
      rw [insertEntry] at h
      split at h
      · rcases List.mem_cons.1 h with h | h
        · exact .inl (h ▸ rfl)
        · exact .inr (List.mem_cons_of_mem _ h)
      · rcases List.mem_cons.1 h with h | h
        · exact .inr (h ▸ List.mem_cons_self)
        · rcases ih h with hvalue | hmem
          · exact .inl hvalue
          · exact .inr (List.mem_cons_of_mem _ hmem)

/-- What holds of all values that are inserted holds of all values that are there. -/
theorem forall_mem_extend {P : α → Prop} (m other : Mapping α) (hm : ∀ e ∈ m.entries, P e.2)
    (hother : ∀ e ∈ other.entries, P e.2) : ∀ e ∈ (m.extend other).entries, P e.2 := by
  obtain ⟨pairs⟩ := other
  unfold extend
  induction pairs generalizing m with
  | nil => exact hm
  | cons first rest ih =>
      refine ih _ (fun e he => ?_) fun e he => hother e (List.mem_cons_of_mem _ he)
      rcases mem_insertEntry he with hvalue | hmem
      · rw [hvalue]
        exact hother first List.mem_cons_self
      · exact hm e hmem

theorem forall_mem_ofList {P : α → Prop} {pairs : List (String × α)}
    (h : ∀ e ∈ pairs, P e.2) : ∀ e ∈ (ofList pairs).entries, P e.2 :=
  forall_mem_extend empty ⟨pairs⟩ (fun _ he => nomatch he) h

end Mapping

end ImageRecipe
