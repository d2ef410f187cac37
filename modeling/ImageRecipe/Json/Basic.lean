import ImageRecipe.Mapping
import ImageRecipe.Whole
import ImageRecipe.Decimal.Notation

/-!
# JSON trees

* `Json` : null, booleans, numbers, strings, arrays, and objects with their members in order
* `Json.Real` : a double that stands for a number; JSON has no NaN and no infinity
-/

namespace ImageRecipe

/-- A double that is neither NaN nor infinite. -/
structure Json.Real where
  value : Float
  finite : Decimal.isFinite value = true

/-- A JSON tree. -/
inductive Json where
  | null
  | bool (b : Bool)
  | whole (n : Whole)
  | real (x : Json.Real)
  | string (s : String)
  | array (items : List Json)
  | object (members : Mapping Json)

namespace Json

instance : Inhabited Json := ⟨.null⟩

/-- A double as a JSON tree; what is not a number becomes null. -/
def ofFloat (x : Float) : Json :=
  if h : Decimal.isFinite x = true then .real ⟨x, h⟩ else .null

/-- The natural number as a JSON tree, a double if it needs more than 64 bits. -/
def ofNat (n : Nat) : Json :=
  if h : n < 18446744073709551616 then .whole ⟨n, by omega, by omega⟩
  else ofFloat (Float.ofScientific n false 0)

end Json

end ImageRecipe
