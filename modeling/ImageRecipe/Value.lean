import ImageRecipe.Shape
import ImageRecipe.Mapping
import ImageRecipe.Decimal.Notation

/-!
# Values

The nodes of a document: what a data file holds once its notation is forgotten.

* `Value` : scalars, sequences and insertion-ordered mappings
* `Value.shape?`, `Value.kind` : the category used for dispatch, and the word used in messages
* `Value.truthy` : what counts as given
* `Value.scalarText?` : how a scalar is written into an instruction line
* `Value.equals` : structural comparison, numbers compared as numbers
-/

namespace ImageRecipe

/-- A node of a document. -/
inductive Value where
  | null
  | bool (b : Bool)
  | integer (n : Int64)
  | float (x : Float)
  | string (s : String)
  | sequence (items : List Value)
  | mapping (m : Mapping Value)

namespace Value

instance : Inhabited Value := ⟨.null⟩

/-- The shape on which a value is dispatched; booleans and floats have none. -/
def shape? : Value → Option Shape
  | .null => some .null
  | .string _ => some .string
  | .integer _ => some .integer
  | .sequence _ => some .sequence
  | .mapping _ => some .mapping
  | .bool _ | .float _ => none

/-- The word that messages use for a value. -/
def kind : Value → String
  | .null => "null"
  | .bool _ => "boolean"
  | .integer _ => "integer"
  | .float _ => "float"
  | .string _ => "string"
  | .sequence _ => "sequence"
  | .mapping _ => "mapping"

/-- A value counts as given unless it is null, false, zero or empty. -/
def truthy : Value → Bool
  | .null => false
  | .bool b => b
  | .integer n => n != 0
  | .float x => x != 0
  | .string s => !s.isEmpty
  | .sequence items => !items.isEmpty
  | .mapping m => !m.isEmpty

/-- The value is null. -/
def isNull : Value → Bool
  | .null => true
  | _ => false

def string? : Value → Option String
  | .string s => some s
  | _ => none

def integer? : Value → Option Int64
  | .integer n => some n
  | _ => none

def sequence? : Value → Option (List Value)
  | .sequence items => some items
  | _ => none

def mapping? : Value → Option (Mapping Value)
  | .mapping m => some m
  | _ => none

/-- How a scalar is written into a line: null as nothing, a string as itself.  Collections are
not scalars. -/
def scalarText? : Value → Option String
  | .null => some ""
  | .bool b => some (if b then "true" else "false")
  | .integer n => some (Decimal.integerText n.toInt)
  | .float x => some (Decimal.plain.text x)
  | .string s => some s
  | .sequence _ | .mapping _ => none

/-! ## Comparison -/

mutual

/-- Same structure with equal leaves.  Floats compare as numbers, so a NaN differs from itself
and the two zeros agree; the order of a mapping's entries matters. -/
def equals : Value → Value → Bool
  | .null, .null => true
  | .bool a, .bool b => a == b
  | .integer a, .integer b => a == b
  | .float x, .float y => x == y
  | .string s, .string t => s == t
  | .sequence xs, .sequence ys => equalsItems xs ys
  | .mapping ⟨es⟩, .mapping ⟨fs⟩ => equalsEntries es fs
  | _, _ => false

def equalsItems : List Value → List Value → Bool
  | [], [] => true
  | x :: xs, y :: ys => x.equals y && equalsItems xs ys
  | _, _ => false

def equalsEntries : List (String × Value) → List (String × Value) → Bool
  | [], [] => true
  | (k, x) :: es, (l, y) :: fs => k == l && (x.equals y && equalsEntries es fs)
  | _, _ => false

end

end Value

/-- Comparison of two mappings, entry by entry. -/
def Mapping.equals (m n : Mapping Value) : Bool := Value.equalsEntries m.entries n.entries

end ImageRecipe
