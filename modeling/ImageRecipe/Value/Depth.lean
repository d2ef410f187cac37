import ImageRecipe.Value

/-!
# Nesting depth

How deep a value nests: scalars not at all, a collection one level more than its deepest member.
The members of a collection nest less deep than the collection, which bounds every conversion
that works its way into a value.
-/

namespace ImageRecipe.Value

mutual

/-- The number of collections inside one another. -/
def depth : Value → Nat
  | .sequence items => depthOfItems items + 1
  | .mapping ⟨entries⟩ => depthOfEntries entries + 1
  | _ => 0

/-- The greatest depth of the items. -/
def depthOfItems : List Value → Nat
  | [] => 0
  | item :: rest => max item.depth (depthOfItems rest)

/-- The greatest depth of the values of the entries. -/
def depthOfEntries : List (String × Value) → Nat
  | [] => 0
  | (_, value) :: rest => max value.depth (depthOfEntries rest)

end

theorem depth_le_of_findEntry {key : String} {value : Value} {entries : List (String × Value)}
    (h : Mapping.findEntry key entries = some value) : value.depth ≤ depthOfEntries entries := by
  induction entries with
  | nil => simp [Mapping.findEntry] at h
  | cons e rest ih =>
    obtain ⟨name, found⟩ := e
    simp only [Mapping.findEntry] at h
    simp only [depthOfEntries]
    split at h
    · cases h; omega
    · have := ih h; omega

/-- The value under a key nests less deep than the mapping. -/
theorem depth_lt_of_get? {m : Mapping Value} {key : String} {value : Value}
    (h : m.get? key = some value) : value.depth < (Value.mapping m).depth := by
  have := depth_le_of_findEntry h
  simp only [depth]
  omega

/-- The first value nests less deep than the mapping. -/
theorem depth_lt_of_first? {m : Mapping Value} {key : String} {value : Value}
    (h : m.first? = some (key, value)) : value.depth < (Value.mapping m).depth := by
  obtain ⟨entries⟩ := m
  cases entries with
  | nil => simp [Mapping.first?] at h
  | cons e rest =>
    simp only [Mapping.first?, List.head?_cons, Option.some.injEq] at h
    subst h
    simp only [depth, depthOfEntries]
    omega

end ImageRecipe.Value
