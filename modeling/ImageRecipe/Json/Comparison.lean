import ImageRecipe.Json.Basic

/-!
# Equality of JSON trees

Whole numbers equal only whole numbers, doubles are compared as numbers, and the order of the
members of objects does not matter.
-/

namespace ImageRecipe.Json

mutual

/-- The trees are equal. -/
def same : Json → Json → Bool
  | .null, .null => true
  | .bool a, .bool b => a == b
  | .whole a, .whole b => a.value == b.value
  | .real a, .real b => a.value == b.value
  | .string a, .string b => a == b
  | .array as, .array bs => sameItems as bs
  | .object ⟨as⟩, .object ⟨bs⟩ => as.length == bs.length && sameMembers as bs
  | _, _ => false

/-- The items are equal one by one. -/
def sameItems : List Json → List Json → Bool
  | [], [] => true
  | a :: as, b :: bs => same a b && sameItems as bs
  | _, _ => false

/-- Each of the members has an equal one among the others. -/
def sameMembers : List (String × Json) → List (String × Json) → Bool
  | [], _ => true
  | (key, a) :: as, bs =>
    (match Mapping.findEntry key bs with
      | some b => same a b
      | none => false) && sameMembers as bs

end

end ImageRecipe.Json
