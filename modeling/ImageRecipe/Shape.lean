/-!
# Shapes

The five kinds of argument on which an instruction can be dispatched, their spelling and their
order.  Booleans and floats have no shape, so no handler can ever be written for them.
-/

namespace ImageRecipe

/-- The category of an argument; one half of the key under which a handler is registered. -/
inductive Shape where
  | null
  | string
  | integer
  | sequence
  | mapping
  deriving DecidableEq, Repr

namespace Shape

/-- The word that messages and listings use for a shape. -/
def text : Shape → String
  | .null => "null"
  | .string => "string"
  | .integer => "integer"
  | .sequence => "sequence"
  | .mapping => "mapping"

/-- Sequences and mappings have members; the other shapes are scalars. -/
def isCollection : Shape → Bool
  | .sequence | .mapping => true
  | .null | .string | .integer => false

/-- The place of a shape among the handlers of one instruction. -/
def rank : Shape → Nat
  | .null => 0
  | .string => 1
  | .integer => 2
  | .sequence => 3
  | .mapping => 4

theorem rank_injective {a b : Shape} (h : a.rank = b.rank) : a = b := by
  cases a <;> cases b <;> first | rfl | (simp [rank] at h)

end Shape

end ImageRecipe
