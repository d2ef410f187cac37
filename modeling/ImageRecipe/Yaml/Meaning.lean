import ImageRecipe.Yaml.Node
import ImageRecipe.Yaml.Problem
import ImageRecipe.Json.Reader

/-!
# What scalars mean

A plain scalar may spell null, a truth value, a whole number or a double; any other text is
itself.  A tag of the core schema asks for one meaning, a local tag is kept.

* `wholeOf?` : whole numbers, in four bases
* `realOf?` : doubles
* `plainMeaning` : a plain scalar without a tag
* `scalarMeaning` : any scalar
-/

namespace ImageRecipe.Yaml

/-- Spellings of null, apart from the empty text. -/
def isNullWord (s : String) : Bool := s == "null" || s == "Null" || s == "NULL" || s == "~"

/-- Spellings of truth values. -/
def boolOf? (s : String) : Option Bool :=
  if s == "true" || s == "True" || s == "TRUE" then some true
  else if s == "false" || s == "False" || s == "FALSE" then some false
  else none

/-! ## Whole numbers -/

/-- A sign, if any, a zero and at least one more digit: no number, but a text. -/
def hasLeadingZero (cs : List Char) : Bool :=
  match (Decimal.splitSign cs).2 with
  | '0' :: rest => !rest.isEmpty && rest.all Char.isDigit
  | _ => false

/-- The number that digits of a base spell. -/
def digitsIn? (base : Nat) : List Char → Option Nat
  | [] => none
  | cs => cs.foldl (fun n c => do
      let n ← n
      let d ← Json.hexValue? c
      if d < base then some (n * base + d) else none) (some 0)

/-- The number that follows the sign of a whole number; a prefix tells the base. -/
def magnitude? : List Char → Option Nat
  | '0' :: 'x' :: rest => digitsIn? 16 rest
  | '0' :: 'o' :: rest => digitsIn? 8 rest
  | '0' :: 'b' :: rest => digitsIn? 2 rest
  | cs => if hasLeadingZero cs then none else digitsIn? 10 cs

/-- The whole number that characters spell. -/
def integer? : List Char → Option Int
  | '-' :: rest =>
    match magnitude? rest with
    | some n => some (-(n : Int))
    | none => none
  | '+' :: rest =>
    match magnitude? rest with
    | some n => some (n : Int)
    | none => none
  | cs =>
    match magnitude? cs with
    | some n => some (n : Int)
    | none => none

/-- The node of a whole number: an error if 64 bits do not suffice but 128 do, nothing if those do
not suffice either. -/
def wholeOf? (n : Int) : Except Problem (Option Node) :=
  match Whole.ofInt? n with
  | some n => .ok (some (.whole n))
  | none =>
    if -170141183460469231731687303715884105728 ≤ n ∧
        n < 340282366920938463463374607431768211456 then .error .wideNumber
    else .ok none

/-! ## Doubles -/

/-- Not a number. -/
def nan : Float := 0.0 / 0.0

/-- The double that a text spells: a finite decimal, an infinity or NaN. -/
def realOf? (s : String) : Option Float :=
  if s == ".inf" || s == ".Inf" || s == ".INF" || s == "+.inf" || s == "+.Inf" || s == "+.INF" then
    some (1.0 / 0.0)
  else if s == "-.inf" || s == "-.Inf" || s == "-.INF" then some (-1.0 / 0.0)
  else if s == ".nan" || s == ".NaN" || s == ".NAN" then some nan
  else
    match Decimal.read? s with
    | some x => if Decimal.isFinite x then some x else none
    | none => none

/-! ## Scalars -/

/-- What a plain scalar without a tag means. -/
def plainMeaning (s : String) : Except Problem Node := do
  if s.isEmpty || isNullWord s then return .null
  if let some b := boolOf? s then return .bool b
  if let some n := integer? s.toList then
    if let some node ← wholeOf? n then return node
  if !hasLeadingZero s.toList then
    if let some x := realOf? s then return .real x
  return .string s

/-- The name of a local tag. -/
def localTag? (tag : Option String) : Option String :=
  match tag with
  | none => none
  | some tag =>
    match tag.toList with
    | ['!'] => some tag
    | '!' :: name => some (String.ofList name)
    | _ => none

/-- A scalar without tag: only a plain one is more than a text. -/
def untaggedMeaning (s : String) (plain : Bool) : Except Problem Node :=
  if plain then plainMeaning s else .ok (.string s)

/-- A scalar with a tag of the core schema has that meaning or none. -/
def coreMeaning (tag s : String) : Except Problem Node :=
  let orUnlike := fun (node : Option Node) =>
    match node with
    | some node => .ok node
    | none => Except.error Problem.contentUnlikeTag
  if tag == "tag:yaml.org,2002:bool" then orUnlike ((boolOf? s).map .bool)
  else if tag == "tag:yaml.org,2002:int" then
    match integer? s.toList with
    | some n => (wholeOf? n).bind orUnlike
    | none => orUnlike none
  else if tag == "tag:yaml.org,2002:float" then orUnlike ((realOf? s).map .real)
  else if tag == "tag:yaml.org,2002:null" then
    orUnlike (if isNullWord s then some .null else none)
  else .ok (.string s)

/-- What a scalar means. -/
def scalarMeaning (tag : Option String) (s : String) (plain : Bool) : Except Problem Node :=
  match localTag? tag, tag with
  | some name, _ => (untaggedMeaning s plain).map (.tagged name)
  | none, some tag => coreMeaning tag s
  | none, none => untaggedMeaning s plain

end ImageRecipe.Yaml
