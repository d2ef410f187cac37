import ImageRecipe.Template.Path

/-!
# Expressions of templates

* `Atom` : what an expression is made of
* `Expression` : an atom, the filters it passes, and whether the result is denied
* `Expression.oversized?` : the first whole number that needs more than 64 bits
-/

namespace ImageRecipe.Template

/-- The operations of arithmetic. -/
inductive Arithmetic where
  | add
  | sub
  | mul
  | div
  | mod
  deriving DecidableEq

/-- The ways to compare. -/
inductive Comparison where
  | lt
  | le
  | gt
  | ge
  | eq
  | ne
  deriving DecidableEq

/-- The ways to join conditions. -/
inductive Connective where
  | and
  | or
  deriving DecidableEq

mutual

/-- What an expression is made of. -/
inductive Atom where
  | integer (n : Int)
  | real (x : Float)
  | bool (b : Bool)
  | string (s : String)
  | array (items : List Expression)
  | path (p : Path)
  | call (name : String) (arguments : List (String × Expression))
  | test (subject : Path) (denied : Bool) (name : String) (arguments : List Expression)
  | concat (parts : List Atom)
  | arithmetic (op : Arithmetic) (left right : Expression)
  | comparison (op : Comparison) (left right : Expression)
  | connective (op : Connective) (left right : Expression)
  | membership (item container : Expression) (denied : Bool)

/-- An atom with the filters that its value passes, in order; `denied` turns the result into the
opposite truth value. -/
inductive Expression where
  | mk (atom : Atom) (filters : List (String × List (String × Expression))) (denied : Bool)

end

/-- Strings among parts, joined with their neighbours.  `text` is the string in front. -/
def Atom.joinStrings : String → List Atom → List Atom
  | text, .string s :: rest => joinStrings (text ++ s) rest
  | text, part :: rest =>
    if text.isEmpty then part :: joinStrings "" rest
    else .string text :: part :: joinStrings "" rest
  | text, [] => if text.isEmpty then [] else [.string text]

/-- Parts of a text that are written with tildes between them.  Neighbouring strings are one, and
empty ones are none; strings alone are a string. -/
def Atom.joined (parts : List Atom) : Atom :=
  match joinStrings "" parts with
  | [] => .string ""
  | [.string s] => .string s
  | parts => .concat parts

namespace Expression

instance : Inhabited Expression := ⟨.mk (.bool false) [] false⟩

/-- An atom alone. -/
def ofAtom (a : Atom) : Expression := .mk a [] false

/-- The expression denied, or not denied, whatever it was before. -/
def withDenial (e : Expression) (denied : Bool) : Expression :=
  match e with
  | .mk atom filters _ => .mk atom filters denied

end Expression

/-! ## Numbers that are too large -/

/-- The number fits 64 bits with its sign. -/
def fitsWord (n : Int) : Bool := -9223372036854775808 ≤ n && n < 9223372036854775808

mutual

/-- The first whole number of an atom that needs more than 64 bits. -/
def Atom.oversized? : Atom → Option Int
  | .integer n => if fitsWord n then none else some n
  | .array items => oversizedItems? items
  | .call _ arguments => oversizedArguments? arguments
  | .test _ _ _ arguments => oversizedItems? arguments
  | .concat parts => oversizedParts? parts
  | .arithmetic _ left right | .comparison _ left right | .connective _ left right
  | .membership left right _ => left.oversized? <|> right.oversized?
  | .real _ | .bool _ | .string _ | .path _ => none

/-- The first whole number of an expression that needs more than 64 bits. -/
def Expression.oversized? : Expression → Option Int
  | .mk atom filters _ => atom.oversized? <|> oversizedFilters? filters

/-- The first such number of a list. -/
def oversizedItems? : List Expression → Option Int
  | [] => none
  | item :: rest => item.oversized? <|> oversizedItems? rest

/-- The first such number of named arguments. -/
def oversizedArguments? : List (String × Expression) → Option Int
  | [] => none
  | (_, argument) :: rest => argument.oversized? <|> oversizedArguments? rest

/-- The first such number of the parts of a text. -/
def oversizedParts? : List Atom → Option Int
  | [] => none
  | part :: rest => part.oversized? <|> oversizedParts? rest

/-- The first such number of the arguments of filters. -/
def oversizedFilters? : List (String × List (String × Expression)) → Option Int
  | [] => none
  | (_, arguments) :: rest => oversizedArguments? arguments <|> oversizedFilters? rest

end

end ImageRecipe.Template
