import ImageRecipe.Proofs.Mapping
import Mathlib.Data.List.Basic

/-!
# What a history of insertions leaves behind

A mapping is read off the pairs that were inserted into it: a key stands where it first came, with
the value that came last.

* `Mapping.lastValue?` : the value of the last pair under a key
* `Mapping.keys_extend`, `Mapping.get?_extend` : keys and values behind an extension
* `Mapping.eq_of_get?` : keys in order, and their values, are all there is to a mapping
* `Mapping.extend_assoc` : extensions can be made one after the other or at once
* `Mapping.Records`, `Mapping.records_ofList` : what each view shows of a history
-/

namespace ImageRecipe.Mapping

variable {α : Type}

/-! ## Keys in the order of their first arrival -/

theorem eraseDups_of_nodup {keys : List String} (h : keys.Nodup) : keys.eraseDups = keys := by
  induction keys with
  | nil => rfl
  | cons key rest ih =>
      obtain ⟨hnew, hrest⟩ := List.nodup_cons.mp h
      have hkept : rest.filter (fun other => !other == key) = rest := by
        refine List.filter_eq_self.mpr fun other hother => ?_
        have hne : other ≠ key := fun heq => hnew (heq ▸ hother)
        simp [hne]
      rw [List.eraseDups_cons, hkept, ih hrest]

/-- A key at the end counts only if it was not there before. -/
theorem eraseDups_concat (keys : List String) (key : String) :
    (keys ++ [key]).eraseDups = if key ∈ keys then keys.eraseDups else keys.eraseDups ++ [key] := by
  rw [List.eraseDups_append]
  by_cases hkey : key ∈ keys
  · simp [List.removeAll, hkey]
  · simp [List.removeAll, hkey, List.eraseDups_cons]

/-- A key counts only once. -/
theorem eraseDups_middle {keys : List String} {key : String} (h : key ∈ keys)
    (rest : List String) : (keys ++ key :: rest).eraseDups = (keys ++ rest).eraseDups := by
  rw [List.eraseDups_append, List.eraseDups_append]
  simp [List.removeAll, h]

/-- The keys behind an extension: a new key comes behind the others. -/
theorem keys_extend {m : Mapping α} (h : m.Distinct) (other : Mapping α) :
    (m.extend other).keys = (m.keys ++ other.keys).eraseDups := by
  obtain ⟨pairs⟩ := other
  unfold extend
  induction pairs generalizing m with
  | nil => exact (by simpa [keys] using (eraseDups_of_nodup h).symm)
  | cons e rest ih =>
      rw [List.foldl_cons, ih (distinct_insert h e.1 e.2), keys_insert]
      have hkeys : keys ⟨e :: rest⟩ = e.1 :: keys ⟨rest⟩ := rfl
      rw [hkeys]
      by_cases hkey : e.1 ∈ m.keys
      · rw [if_pos hkey, eraseDups_middle hkey]
      · rw [if_neg hkey, List.append_assoc, List.singleton_append]

/-! ## The value that came last -/

/-- The value of the last pair under a key. -/
def lastValue? (history : List (String × α)) (key : String) : Option α :=
  history.reverse.lookup key

theorem lastValue?_append (before behind : List (String × α)) (key : String) :
    lastValue? (before ++ behind) key = (lastValue? behind key).or (lastValue? before key) := by
  rw [lastValue?, List.reverse_append, List.lookup_append]
  rfl

theorem lastValue?_singleton (e : String × α) (key : String) :
    lastValue? [e] key = if e.1 = key then some e.2 else none := by
  obtain ⟨name, value⟩ := e
  by_cases hkey : name = key
  · simp [lastValue?, hkey]
  · have hne : (key == name) = false := beq_eq_false_iff_ne.mpr (Ne.symm hkey)
    simp [lastValue?, hkey, List.lookup_cons, hne]

theorem lastValue?_map {β : Type} (f : α → β) (history : List (String × α)) (key : String) :
    lastValue? (history.map fun e => (e.1, f e.2)) key = (lastValue? history key).map f := by
  rw [lastValue?, lastValue?, ← List.map_reverse]
  induction history.reverse with
  | nil => rfl
  | cons e rest ih =>
      rw [List.map_cons, List.lookup_cons, List.lookup_cons, ih]
      cases key == e.1 <;> rfl

/-- The values behind an extension: the last pair under a key decides. -/
theorem get?_extend (m other : Mapping α) (key : String) :
    (m.extend other).get? key = (lastValue? other.entries key).or (m.get? key) := by
  obtain ⟨pairs⟩ := other
  unfold extend
  induction pairs generalizing m with
  | nil => rfl
  | cons e rest ih =>
      have hsplit : e :: rest = [e] ++ rest := rfl
      rw [List.foldl_cons, ih, get?_insert, hsplit, lastValue?_append, lastValue?_singleton,
        Option.or_assoc]
      by_cases hkey : e.1 = key
      · rw [if_pos hkey, if_pos hkey, Option.some_or]
      · rw [if_neg hkey, if_neg hkey, Option.none_or]

theorem keys_ofList (history : List (String × α)) :
    (ofList history).keys = (history.map Prod.fst).eraseDups :=
  keys_extend distinct_empty ⟨history⟩

theorem get?_ofList (history : List (String × α)) (key : String) :
    (ofList history).get? key = lastValue? history key := by
  have hempty : (empty : Mapping α).get? key = none := rfl
  have hextend := get?_extend empty ⟨history⟩ key
  rw [hempty, Option.or_none] at hextend
  exact hextend

theorem ofList_append (before behind : List (String × α)) :
    ofList (before ++ behind) = (ofList before).extend ⟨behind⟩ := by
  simp only [ofList, extend, List.foldl_append]

/-- What is there already can be collected again. -/
theorem ofList_entries {m : Mapping α} (h : m.Distinct) : ofList m.entries = m := ofList_eq h

theorem merge_pair {m : Mapping α} (h : m.Distinct) (other : Mapping α) :
    merge [m, other] = m.extend other :=
  congrArg (extend · other) (ofList_entries h)

theorem lastValue?_entries {m : Mapping α} (h : m.Distinct) (key : String) :
    lastValue? m.entries key = m.get? key := by
  rw [← get?_ofList, ofList_entries h]

/-! ## Keys and values are all there is -/

/-- The entries are the keys in their order, each with its value. -/
theorem entries_eq_filterMap {m : Mapping α} (h : m.Distinct) :
    m.entries = m.keys.filterMap fun key => (m.get? key).map (key, ·) := by
  obtain ⟨entries⟩ := m
  induction entries with
  | nil => rfl
  | cons e rest ih =>
      obtain ⟨name, value⟩ := e
      obtain ⟨hnew, hrest⟩ := List.nodup_cons.mp (show (name :: rest.map Prod.fst).Nodup from h)
      have hfirst : (⟨(name, value) :: rest⟩ : Mapping α).get? name = some value := by
        simp [get?, findEntry]
      -- behind the first entry its key does not come again, so that look-ups pass it by
      have hothers : ∀ key ∈ rest.map Prod.fst,
          ((⟨(name, value) :: rest⟩ : Mapping α).get? key).map (key, ·) =
            ((⟨rest⟩ : Mapping α).get? key).map (key, ·) := by
        intro key hkey
        have hne : name ≠ key := fun heq => hnew (heq ▸ hkey)
        simp [get?, findEntry, hne]
      have hkeys : (⟨(name, value) :: rest⟩ : Mapping α).keys = name :: rest.map Prod.fst := rfl
      rw [hkeys, List.filterMap_cons, hfirst, Option.map_some, List.filterMap_congr hothers]
      exact congrArg (List.cons (name, value)) (ih hrest)

theorem eq_of_get? {m n : Mapping α} (hm : m.Distinct) (hkeys : m.keys = n.keys)
    (hget : ∀ key, m.get? key = n.get? key) : m = n := by
  have hn : n.Distinct := by
    unfold Distinct
    rw [← hkeys]
    exact hm
  have hentries : m.entries = n.entries := by
    rw [entries_eq_filterMap hm, entries_eq_filterMap hn, hkeys]
    simp only [hget]
  cases m
  cases n
  exact congrArg Mapping.mk hentries

/-- To extend by a mapping with one more insertion is to insert last. -/
theorem extend_insert {m n : Mapping α} (hm : m.Distinct) (hn : n.Distinct) (key : String)
    (value : α) : m.extend (n.insert key value) = (m.extend n).insert key value := by
  have hinsert := distinct_insert hn key value
  refine eq_of_get? (distinct_extend hm _) ?_ fun other => ?_
  · simp only [keys_insert, keys_extend hm, List.mem_eraseDups]
    by_cases hkey : key ∈ n.keys
    · rw [if_pos hkey, if_pos (List.mem_append_right _ hkey)]
    · rw [if_neg hkey, ← List.append_assoc, eraseDups_concat]
  · rw [get?_insert, get?_extend, get?_extend, lastValue?_entries hinsert, lastValue?_entries hn,
      get?_insert]
    by_cases hkey : key = other
    · rw [if_pos hkey, if_pos hkey, Option.some_or]
    · rw [if_neg hkey, if_neg hkey]

/-- Extending is associative. -/
theorem extend_assoc {m n : Mapping α} (hm : m.Distinct) (hn : n.Distinct) (other : Mapping α) :
    m.extend (n.extend other) = (m.extend n).extend other := by
  obtain ⟨pairs⟩ := other
  -- the pairs go into the inner mapping one by one, and each can go in last instead
  induction pairs generalizing n with
  | nil => rfl
  | cons e rest ih =>
      have hcons : ∀ k : Mapping α, k.extend ⟨e :: rest⟩ = (k.insert e.1 e.2).extend ⟨rest⟩ :=
        fun _ => rfl
      rw [hcons, hcons, ih (distinct_insert hn e.1 e.2), extend_insert hm hn]

/-! ## Histories -/

/-- What each view of a mapping shows if these pairs were inserted, in this order. -/
structure Records (m : Mapping α) (history : List (String × α)) : Prop where
  /-- No key is there twice. -/
  distinct : m.keys.Nodup
  /-- The keys stand in the order of their first arrival. -/
  keys : m.keys = (history.map Prod.fst).eraseDups
  /-- A key has the value that came last, and none if it never came. -/
  get? : ∀ key, m.get? key = lastValue? history key
  /-- The entries are these keys with these values. -/
  entries : m.entries = m.keys.filterMap fun key => (lastValue? history key).map (key, ·)
  contains : ∀ key, m.contains key = true ↔ key ∈ history.map Prod.fst
  size : m.size = m.keys.length
  isEmpty : m.isEmpty = true ↔ history = []
  /-- The first entry has the key that came first. -/
  first? : m.first? =
    history.head?.bind fun e => (lastValue? history e.1).map (e.1, ·)

theorem isEmpty_iff {m : Mapping α} : m.isEmpty = true ↔ m.keys = [] := by
  simp [isEmpty, keys]

theorem records_ofList (history : List (String × α)) : (ofList history).Records history := by
  have distinct := distinct_ofList history
  have hkeys := keys_ofList history
  have hget := get?_ofList history
  have hentries : (ofList history).entries = (ofList history).keys.filterMap fun key =>
      (lastValue? history key).map (key, ·) := by
    rw [entries_eq_filterMap distinct]
    simp only [hget]
  refine ⟨distinct, hkeys, hget, hentries, fun key => ?_, (List.length_map _).symm, ?_, ?_⟩
  · rw [contains_iff, hkeys, List.mem_eraseDups]
  · rw [isEmpty_iff, hkeys]
    cases history with
    | nil => simp
    | cons e rest => simp [List.eraseDups_cons]
  · rw [first?, hentries, hkeys]
    cases history with
    | nil => rfl
    | cons e rest =>
        -- the first key came at some time, so that it has a value
        have hfirst : e.1 ∈ (ofList (e :: rest)).keys := by
          rw [hkeys, List.mem_eraseDups]
          exact List.mem_cons_self
        obtain ⟨value, hvalue⟩ := Option.ne_none_iff_exists'.mp
          fun hnone => get?_eq_none_iff.mp hnone hfirst
        rw [hget] at hvalue
        simp [List.eraseDups_cons, hvalue]

end ImageRecipe.Mapping
