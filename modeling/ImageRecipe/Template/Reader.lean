/-!
# Readers

A reader takes characters from the front of the text ahead and gives what they stand for, or does
not apply.  Alternatives are tried in order; the first that applies is taken for good.

* `Reader` : what a reader is
* `token`, `word` : characters behind blanks
* `many`, `maybe` : repetition and option
* `chain` : operands with operators of two strengths between them
-/

namespace ImageRecipe.Template

/-- Takes characters from the front of the text ahead, or does not apply. -/
abbrev Reader (α : Type) : Type := StateT (List Char) Option α

namespace Reader

variable {α β : Type}

/-- A blank between the parts of an expression. -/
def isGap (c : Char) : Bool := c == ' ' || c == '\t' || c == '\r' || c == '\n'

/-- Skips blanks. -/
def gap : Reader Unit := fun cs => some ((), cs.dropWhile isGap)

/-- These characters. -/
def exactly : List Char → Reader Unit
  | [] => fun cs => some ((), cs)
  | c :: expected => fun cs =>
    match cs with
    | d :: rest => if d = c then exactly expected rest else none
    | [] => none

/-- Skips blanks and goes on. -/
def behindGap (r : Reader α) : Reader α := gap *> r

/-- These characters, behind blanks. -/
def token (s : String) : Reader Unit := behindGap (exactly s.toList)

/-- These characters behind blanks, and one blank after them. -/
def word (s : String) : Reader Unit := fun cs =>
  match token s cs with
  | some ((), c :: rest) => if isGap c then some ((), rest) else none
  | _ => none

/-- The characters that satisfy a condition, at least one. -/
def run (p : Char → Bool) : Reader (List Char) := fun cs =>
  let found := cs.takeWhile p
  if found.isEmpty then none else some (found, cs.dropWhile p)

/-- A reader if it applies. -/
def maybe (r : Reader α) : Reader (Option α) := fun cs =>
  match r cs with
  | some (a, rest) => some (some a, rest)
  | none => some (none, cs)

/-- Whether a reader applies. -/
def given (r : Reader α) : Reader Bool := do
  return (← maybe r).isSome

/-- A reader as often as it applies, but not more often than `bound` is long. -/
def manyAlong (r : Reader α) : List Char → Reader (List α)
  | [] => fun cs => some ([], cs)
  | _ :: bound => fun cs =>
    match r cs with
    | none => some ([], cs)
    | some (a, rest) => (manyAlong r bound rest).map fun found => (a :: found.1, found.2)

/-- A reader as often as it applies.  Each time it takes at least one character, so the text itself
is a bound. -/
def many (r : Reader α) : Reader (List α) := fun cs => manyAlong r cs cs

/-- One reading, and further ones behind a separator. -/
def separated (separator : Reader Unit) (r : Reader α) : Reader (List α) := do
  let first ← r
  let others ← many (separator *> r)
  return first :: others

/-! ## Operators of two strengths -/

/-- Joins operands from the left.  Strong operators bind first: `sum` waits with its weak operator
for the product that is being joined. -/
def joinChain (strong : β → Bool) (join : β → α → α → α) :
    Option (α × β) → α → List (β × α) → α
  | sum, product, [] =>
    match sum with
    | some (left, op) => join op left product
    | none => product
  | sum, product, (op, operand) :: rest =>
    if strong op then joinChain strong join sum (join op product operand) rest
    else
      let left := match sum with
        | some (left, weak) => join weak left product
        | none => product
      joinChain strong join (some (left, op)) operand rest

/-- Operands with operators between them. -/
def chain (operator : Reader β) (operand : Reader α) (strong : β → Bool)
    (join : β → α → α → α) : Reader α := do
  let first ← operand
  let rest ← many do
    let op ← operator
    let next ← operand
    return (op, next)
  return joinChain strong join none first rest

end Reader

end ImageRecipe.Template
