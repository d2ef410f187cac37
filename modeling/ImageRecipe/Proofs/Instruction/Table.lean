import ImageRecipe.Instruction.Builtin

/-!
# Tables in key order

Keys are totally ordered by `HandlerKey.before`.  A table built from handlers with distinct keys
holds exactly these handlers in strictly ascending order, so looking a key up in it is looking for
the one handler that has the key.

* `Ascending` : the order of a table
* `Lists` : a list that shows given handlers, all of them and nothing else, in that order
* `find?_sort_eq_some_iff` : what a table finds
-/

namespace ImageRecipe

/-! ## The order of keys -/

namespace HandlerKey

theorem before_iff {a b : HandlerKey} :
    a.before b = true ↔
      a.instruction < b.instruction ∨
        a.instruction = b.instruction ∧ a.shape.rank < b.shape.rank := by
  simp [before]

theorem not_before_self (a : HandlerKey) : ¬ a.before a = true := by
  rw [before_iff]
  rintro (h | ⟨_, h⟩)
  · exact String.lt_irrefl _ h
  · exact Nat.lt_irrefl _ h

theorem before_trans {a b c : HandlerKey} (hab : a.before b = true) (hbc : b.before c = true) :
    a.before c = true := by
  rw [before_iff] at hab hbc ⊢
  rcases hab with hab | ⟨hab, rab⟩
  · rcases hbc with hbc | ⟨hbc, -⟩
    · exact .inl (String.lt_trans hab hbc)
    · exact .inl (hbc ▸ hab)
  · rcases hbc with hbc | ⟨hbc, rbc⟩
    · exact .inl (hab ▸ hbc)
    · exact .inr ⟨hab.trans hbc, Nat.lt_trans rab rbc⟩

/-- Of two different keys one comes before the other. -/
theorem before_of_ne {a b : HandlerKey} (hne : a ≠ b) (hnot : ¬ a.before b = true) :
    b.before a = true := by
  obtain ⟨i, s⟩ := a
  obtain ⟨j, t⟩ := b
  rw [before_iff] at hnot ⊢
  simp only [not_or, not_and] at hnot ⊢
  obtain ⟨hnames, hshapes⟩ := hnot
  by_cases hij : i = j
  · subst hij
    have hrank : s.rank ≠ t.rank := fun hrank => hne (by rw [Shape.rank_injective hrank])
    have := hshapes rfl
    exact .inr ⟨rfl, by omega⟩
  · rcases String.le_total i j with hle | hle
    · exact absurd (String.not_le.mp fun hji => hij (String.le_antisymm hle hji)) hnames
    · exact .inl (String.not_le.mp fun hji => hij (String.le_antisymm hji hle))

end HandlerKey

/-! ## Ascending lists of handlers -/

/-- Each handler stands before the later ones in the order of keys. -/
def Ascending (hs : List Handler) : Prop :=
  hs.Pairwise fun g h => g.key.before h.key = true

/-- The list shows exactly the handlers, in strictly ascending order of their keys. -/
structure Lists (hs shown : List Handler) : Prop where
  perm : shown.Perm hs
  ascending : Ascending shown

/-- There is only one way to list handlers. -/
theorem Lists.unique {hs shown shown' : List Handler} (h : Lists hs shown)
    (h' : Lists hs shown') : shown = shown' := by
  refine (h.perm.trans h'.perm.symm).eq_of_pairwise ?_ h.ascending h'.ascending
  intro g g' _ _ hgg hgg'
  exact absurd (HandlerKey.before_trans hgg hgg') (HandlerKey.not_before_self _)

namespace HandlerTable

/-! ## Sorting -/

theorem ascending_insertSorted (h : Handler) {sorted : List Handler} (hs : Ascending sorted) :
    Ascending (insertSorted h sorted) := by
  induction sorted with
  | nil => exact List.pairwise_singleton _ _
  | cons g rest ih =>
      obtain ⟨hg, hrest⟩ := List.pairwise_cons.mp hs
      simp only [insertSorted]
      split
      · -- the handler replaces the one with its key
        rename_i hkey
        exact List.pairwise_cons.mpr ⟨fun f hf => hkey ▸ hg f hf, hrest⟩
      · rename_i hkey
        split
        · rename_i hbefore
          refine List.pairwise_cons.mpr ⟨fun f hf => ?_, hs⟩
          rcases List.mem_cons.mp hf with rfl | hf
          · exact hbefore
          · exact HandlerKey.before_trans hbefore (hg f hf)
        · rename_i hbefore
          refine List.pairwise_cons.mpr ⟨fun f hf => ?_, ih hrest⟩
          rcases mem_of_mem_insertSorted hf with rfl | hf
          · exact HandlerKey.before_of_ne hkey hbefore
          · exact hg f hf

theorem ascending_sort (hs : List Handler) : Ascending (sort hs) := by
  have hfold : ∀ (hs sorted : List Handler), Ascending sorted →
      Ascending (hs.foldl (fun sorted h => insertSorted h sorted) sorted) := by
    intro hs
    induction hs with
    | nil => exact fun _ hsorted => hsorted
    | cons h rest ih => exact fun sorted hsorted => ih _ (ascending_insertSorted h hsorted)
  exact hfold hs [] List.Pairwise.nil

/-- A handler with a new key is added to the sorted ones. -/
theorem perm_insertSorted {h : Handler} {sorted : List Handler}
    (new : ∀ g ∈ sorted, g.key ≠ h.key) : (insertSorted h sorted).Perm (h :: sorted) := by
  induction sorted with
  | nil => exact List.Perm.refl _
  | cons g rest ih =>
      have hkey : ¬ h.key = g.key := fun he => new g List.mem_cons_self he.symm
      simp only [insertSorted, if_neg hkey]
      split
      · exact List.Perm.refl _
      · have hrest := ih fun f hf => new f (List.mem_cons_of_mem _ hf)
        exact (hrest.cons g).trans (List.Perm.swap h g rest)

/-- Sorting neither loses nor adds a handler, if no two have one key. -/
theorem perm_sort {hs : List Handler} (distinct : (hs.map Handler.key).Nodup) :
    (sort hs).Perm hs := by
  have hfold : ∀ (hs sorted : List Handler), (hs.map Handler.key).Nodup →
      (∀ g ∈ sorted, ∀ h ∈ hs, g.key ≠ h.key) →
        (hs.foldl (fun sorted h => insertSorted h sorted) sorted).Perm (hs ++ sorted) := by
    intro hs
    induction hs with
    | nil => exact fun _ _ _ => List.Perm.refl _
    | cons h rest ih =>
        intro sorted hnodup hnew
        obtain ⟨hh, hrest⟩ := List.nodup_cons.mp (List.map_cons ▸ hnodup)
        have hinsert : (insertSorted h sorted).Perm (h :: sorted) :=
          perm_insertSorted fun g hg => hnew g hg h List.mem_cons_self
        refine (ih _ hrest fun g hg f hf => ?_).trans ?_
        · rcases mem_of_mem_insertSorted hg with rfl | hg
          · exact fun hkey => hh (hkey ▸ List.mem_map_of_mem hf)
          · exact hnew g hg f (List.mem_cons_of_mem _ hf)
        · exact (hinsert.append_left rest).trans List.perm_middle
  simpa [sort] using hfold hs [] distinct (by simp)

/-- A table that is built from handlers with distinct keys lists them. -/
theorem lists_sort {hs : List Handler} (distinct : (hs.map Handler.key).Nodup) :
    Lists hs (sort hs) :=
  ⟨perm_sort distinct, ascending_sort hs⟩

/-! ## Looking up -/

theorem find?_eq_some_iff_of_distinct {hs : List Handler} (distinct : (hs.map Handler.key).Nodup)
    {key : HandlerKey} {h : Handler} :
    (hs.find? fun g => g.key = key) = some h ↔ h ∈ hs ∧ h.key = key := by
  constructor
  · intro hfind
    exact ⟨List.mem_of_find?_eq_some hfind, by simpa using List.find?_some hfind⟩
  · rintro ⟨hmem, rfl⟩
    induction hs with
    | nil => cases hmem
    | cons g rest ih =>
        obtain ⟨hg, hrest⟩ := List.nodup_cons.mp (List.map_cons ▸ distinct)
        rcases List.mem_cons.mp hmem with rfl | hmem
        · simp
        · have hne : ¬ g.key = h.key := fun he => hg (he ▸ List.mem_map_of_mem hmem)
          simp only [List.find?_cons, hne, decide_false]
          exact ih hrest hmem

theorem distinct_sort {hs : List Handler} (distinct : (hs.map Handler.key).Nodup) :
    ((sort hs).map Handler.key).Nodup :=
  ((perm_sort distinct).map Handler.key).nodup_iff.mpr distinct

/-- A table finds the handler that has the key. -/
theorem find?_sort_eq_some_iff {hs : List Handler} (distinct : (hs.map Handler.key).Nodup)
    {build : Nat} {key : HandlerKey} {h : Handler} :
    (HandlerTable.mk (sort hs) build).find? key = some h ↔ h ∈ hs ∧ h.key = key := by
  rw [find?, find?_eq_some_iff_of_distinct (distinct_sort distinct),
    (perm_sort distinct).mem_iff]

end HandlerTable

/-! ## The built-in handlers -/

/-- No two built-in handlers have one key. -/
theorem builtinHandlers_distinct : (builtinHandlers.map Handler.key).Nodup := by
  decide +kernel

/-- The names of the built-in handlers are in capitals. -/
theorem builtinHandlers_instruction : ∀ h ∈ builtinHandlers, h.instruction = h.name := by
  decide

/-- Registering the built-in handlers gives the registry of them. -/
theorem registerAll_builtinHandlers : Registry.empty.registerAll builtinHandlers = .ok .builtin :=
  rfl

end ImageRecipe
