import ImageRecipe.Value
import ImageRecipe.Json.Basic
import ImageRecipe.Document.Error

/-!
# Values and JSON trees

* `Value.toJson` : every value has a JSON tree; a double that is not a number becomes null
* `Value.ofJson` : a JSON tree is a value unless a whole number needs an unsigned word
* `Value.finite` : the value with null in place of each double that is not a number
-/

namespace ImageRecipe.Value

mutual

/-- The JSON tree of a value. -/
def toJson : Value → Json
  | .null => .null
  | .bool b => .bool b
  | .integer n => .whole (.ofInt64 n)
  | .float x => .ofFloat x
  | .string s => .string s
  | .sequence items => .array (itemsToJson items)
  | .mapping ⟨entries⟩ => .object (.ofList (entriesToJson entries))

/-- The JSON trees of the items of a sequence. -/
def itemsToJson : List Value → List Json
  | [] => []
  | item :: rest => item.toJson :: itemsToJson rest

/-- The members for the entries of a mapping. -/
def entriesToJson : List (String × Value) → List (String × Json)
  | [] => []
  | (key, value) :: rest => (key, value.toJson) :: entriesToJson rest

end

mutual

/-- The value of a JSON tree. -/
def ofJson : Json → Except DocumentError Value
  | .null => .ok .null
  | .bool b => .ok (.bool b)
  | .whole n =>
    match n.toInt64? with
    | some n => .ok (.integer n)
    | none => .error (.numberOutOfRange (Decimal.integerText n.value))
  | .real x => .ok (.float x.value)
  | .string s => .ok (.string s)
  | .array items => (itemsOfJson items).map .sequence
  | .object ⟨entries⟩ => (entriesOfJson entries).map fun es => .mapping (.ofList es)

/-- The values of the items of an array, or the first error. -/
def itemsOfJson : List Json → Except DocumentError (List Value)
  | [] => .ok []
  | item :: rest =>
    match ofJson item with
    | .error e => .error e
    | .ok v => (itemsOfJson rest).map (v :: ·)

/-- The entries for the members of an object, or the first error. -/
def entriesOfJson : List (String × Json) → Except DocumentError (List (String × Value))
  | [] => .ok []
  | (key, value) :: rest =>
    match ofJson value with
    | .error e => .error e
    | .ok v => (entriesOfJson rest).map ((key, v) :: ·)

end

mutual

/-- The value with null in place of each double that is not a number. -/
def finite : Value → Value
  | .float x => if Decimal.isFinite x then .float x else .null
  | .sequence items => .sequence (finiteItems items)
  | .mapping ⟨entries⟩ => .mapping ⟨finiteEntries entries⟩
  | v => v

/-- The items, each finite. -/
def finiteItems : List Value → List Value
  | [] => []
  | item :: rest => item.finite :: finiteItems rest

/-- The entries, each value finite. -/
def finiteEntries : List (String × Value) → List (String × Value)
  | [] => []
  | (key, value) :: rest => (key, value.finite) :: finiteEntries rest

end

end ImageRecipe.Value
