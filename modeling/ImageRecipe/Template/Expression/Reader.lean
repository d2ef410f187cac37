import ImageRecipe.Decimal.Reader
import ImageRecipe.Template.Reader
import ImageRecipe.Template.Expression

/-!
# Reading expressions

Levels, from the strongest binding to the weakest: atoms and what stands in brackets; products and
sums; filters; comparisons and membership; conditions.  `Level` holds the readers that a nested
bracket calls for, and `levelAlong` builds the readers around them.

* `Level` : what may stand inside brackets
* `argument`, `condition`, `container` : the three kinds of expression that tags hold
-/

namespace ImageRecipe.Template

namespace Grammar

open Reader

/-! ## Names, numbers and strings -/

/-- A letter, a digit or an underscore. -/
def isNameChar (c : Char) : Bool := c.isAlphanum || c == '_'

/-- A name; it does not start with a digit. -/
def name : Reader String := fun cs =>
  match cs with
  | c :: _ =>
    if c.isAlpha || c == '_' then
      some (String.ofList (cs.takeWhile isNameChar), cs.dropWhile isNameChar)
    else none
  | [] => none

/-- A character. -/
def only (c : Char) : Reader Unit := exactly [c]

/-- A whole number without leading zeros, perhaps with a minus sign. -/
def wholeDigits : Reader (List Char) := do
  let sign ← maybe (only '-')
  let digits ← (do only '0'; return ['0']) <|> run Char.isDigit
  return if sign.isSome then '-' :: digits else digits

/-- A whole number with a point and further digits. -/
def realDigits : Reader (List Char) := do
  let whole ← wholeDigits
  only '.'
  let fraction ← run Char.isDigit
  return whole ++ '.' :: fraction

/-- The number that whole digits stand for. -/
def wholeValue : List Char → Int
  | '-' :: digits => -(Decimal.digitsValue digits : Int)
  | digits => Decimal.digitsValue digits

/-- The quotes that may stand around a string: double, single and reversed. -/
def quotes : List Char := ['"', '\'', Char.ofNat 0x60]

/-- A quoted string, with the quote; there are no escapes. -/
def quotedText : Reader (Char × String) := fun cs =>
  match cs with
  | quote :: rest =>
    if quotes.contains quote then
      match rest.dropWhile (· != quote) with
      | _ :: left => some ((quote, String.ofList (rest.takeWhile (· != quote))), left)
      | [] => none
    else none
  | [] => none

/-- A whole number. -/
def integerAtom : Reader Atom := do
  return .integer (wholeValue (← behindGap wholeDigits))

/-- A number with a point. -/
def realAtom : Reader Atom := do
  return .real ((Decimal.readChars? (← behindGap realDigits)).getD 0)

/-- A string. -/
def stringAtom : Reader Atom := do
  return .string (← behindGap quotedText).2

/-- A truth value. -/
def boolAtom : Reader Atom :=
  (do token "true" <|> token "True"; return .bool true) <|>
    (do token "false" <|> token "False"; return .bool false)

/-! ## Paths -/

/-- A name behind a point, with the point. -/
def member : Reader (List Char) := do
  only '.'
  return '.' :: (← run isNameChar)

/-- What stands between brackets, with the brackets: a whole number, a quoted string, or a path. -/
def bracketed (inner : Reader (List Char)) : Reader (List Char) := do
  only '['
  let quoted : Reader (List Char) := do
    let (quote, text) ← quotedText
    return quote :: (text.toList ++ [quote])
  let inside ← wholeDigits <|> quoted <|> inner
  only ']'
  return '[' :: (inside ++ [']'])

/-- The characters of a path whose brackets nest less deep than `bound` is long. -/
def pathAlong : List Char → Reader (List Char)
  | [] => failure
  | _ :: bound => do
    let root ← name
    let steps ← many (member <|> bracketed fun cs => pathAlong bound cs)
    return root.toList ++ steps.flatten

/-- A path; the text itself bounds how deep its brackets nest. -/
def path : Reader Path := do
  return ⟨String.ofList (← fun cs => pathAlong cs cs)⟩

/-- A path as an atom. -/
def pathAtom : Reader Atom := do
  return .path (← behindGap path)

/-! ## Brackets -/

/-- The readers that apply inside brackets. -/
structure Level where
  /-- Arithmetic without filters. -/
  sum : Reader Atom
  /-- One condition. -/
  value : Reader Expression
  /-- Conditions with connectives. -/
  condition : Reader Expression
  /-- Conditions, or an array. -/
  argument : Reader Expression

/-- Named arguments between parentheses. -/
def arguments (inner : Level) : Reader (List (String × Expression)) := do
  token "("
  let found ← maybe do
    let found ← separated (token ",") do
      let key ← behindGap name
      token "="
      return (key, ← inner.argument)
    let _ ← maybe (token ",")
    return found
  token ")"
  return found.getD []

/-- A call of a function. -/
def call (inner : Level) : Reader (String × List (String × Expression)) := do
  return (← behindGap name, ← arguments inner)

/-- A call as an atom. -/
def callAtom (inner : Level) : Reader Atom := do
  let (function, found) ← call inner
  return .call function found

/-- A filter behind a bar, with or without arguments. -/
def filter (inner : Level) : Reader (String × List (String × Expression)) := do
  token "|"
  call inner <|> (do return (← behindGap name, []))

/-- An atom with its filters. -/
def filtered (inner : Level) (atom : Reader Atom) : Reader Expression := do
  let base ← atom
  return .mk base (← many (filter inner)) false

/-- A test of a path, perhaps denied. -/
def testAtom (inner : Level) : Reader Atom := do
  let subject ← behindGap path
  token "is"
  let tested (denied : Bool) : Reader Atom := do
    let test ← behindGap name
    let found ← maybe do
      token "("
      let found ← separated (token ",") inner.argument
      token ")"
      return found
    return .test subject denied test (found.getD [])
  (token "not" *> tested true) <|> tested false

/-- Parts of a text with tildes between them; there are at least two. -/
def concatAtom (inner : Level) : Reader Atom := do
  let part := callAtom inner <|> realAtom <|> integerAtom <|> stringAtom <|> pathAtom
  let first ← part
  let others ← many (token "~" *> part)
  if others.isEmpty then failure else return .joined (first :: others)

/-- An array. -/
def arrayAtom (inner : Level) : Reader Atom := do
  token "["
  let items ← many do
    let item ← inner.value
    token ","
    return item
  let last ← maybe inner.value
  token "]"
  return .array (items ++ last.toList)

/-! ## Operators -/

/-- An operator of arithmetic. -/
def arithmeticOperator : Reader Arithmetic :=
  (do token "+"; return .add) <|> (do token "-"; return .sub) <|> (do token "*"; return .mul) <|>
    (do token "/"; return .div) <|> (do token "%"; return .mod)

/-- Products bind before sums. -/
def isProduct : Arithmetic → Bool
  | .mul | .div | .mod => true
  | .add | .sub => false

/-- An operator of comparison. -/
def comparisonOperator : Reader Comparison :=
  (do token "!="; return .ne) <|> (do token "=="; return .eq) <|> (do token "<="; return .le) <|>
    (do token ">="; return .ge) <|> (do token ">"; return .gt) <|> (do token "<"; return .lt)

/-- A connective, with a blank after it. -/
def connectiveOperator : Reader Connective :=
  (do word "or"; return .or) <|> (do word "and"; return .and)

/-- An atom, or arithmetic between parentheses. -/
def operandAtom (inner : Level) : Reader Atom :=
  (do token "("; let a ← inner.sum; token ")"; return a) <|>
    boolAtom <|> testAtom inner <|> callAtom inner <|> pathAtom <|> realAtom <|> integerAtom

/-- Arithmetic without filters. -/
def sumAtom (inner : Level) : Reader Atom :=
  chain arithmeticOperator (operandAtom inner) isProduct fun op left right =>
    .arithmetic op (.ofAtom left) (.ofAtom right)

/-- Arithmetic whose result passes filters. -/
def filteredSum (inner : Level) : Reader Expression := filtered inner (sumAtom inner)

/-- A string, or the parts of one, that passes filters. -/
def filteredString (inner : Level) : Reader Expression :=
  filtered inner (concatAtom inner <|> stringAtom)

/-- An array that passes filters. -/
def filteredArray (inner : Level) : Reader Expression := filtered inner (arrayAtom inner)

/-- Arithmetic on results of filters. -/
def operand (inner : Level) : Reader Expression :=
  chain arithmeticOperator (filteredSum inner) isProduct fun op left right =>
    .ofAtom (.arithmetic op left right)

/-- A comparison. -/
def comparison (inner : Level) : Reader Expression := do
  let side := filteredString inner <|> operand inner
  let left ← side
  let op ← comparisonOperator
  return .ofAtom (.comparison op left (← side))

/-- A question whether something contains something. -/
def membership (inner : Level) : Reader Expression := do
  let item ← filteredString inner <|> filteredSum inner
  let denied ← given (word "not")
  token "in"
  let container ←
    filteredString inner <|> filteredArray inner <|> (Expression.ofAtom <$> pathAtom)
  return .ofAtom (.membership item container denied)

/-- One condition, perhaps denied.  Conditions in parentheses cannot be denied, and a denied one
that is alone in its parentheses is so no longer. -/
def value (inner : Level) : Reader Expression :=
  (do
    let denied ← given (word "not")
    let found ←
      membership inner <|> comparison inner <|> filteredString inner <|> operand inner
    return found.withDenial denied) <|>
  (do
    token "("
    let found ← inner.condition
    token ")"
    return found.withDenial false)

/-- Conditions with connectives; `and` binds before `or`. -/
def condition (inner : Level) : Reader Expression :=
  chain connectiveOperator (value inner) (· = .and) fun op left right =>
    .ofAtom (.connective op left right)

/-- Conditions, or an array. -/
def argument (inner : Level) : Reader Expression := condition inner <|> filteredArray inner

/-- The readers for brackets that nest less deep than `bound` is long. -/
def levelAlong : List Char → Level
  | [] => ⟨failure, failure, failure, failure⟩
  | _ :: bound =>
    { sum := fun cs => sumAtom (levelAlong bound) cs
      value := fun cs => value (levelAlong bound) cs
      condition := fun cs => condition (levelAlong bound) cs
      argument := fun cs => argument (levelAlong bound) cs }

/-- A reader that meets brackets; the text itself bounds how deep they nest. -/
def anyDepth {α : Type} (r : Level → Reader α) : Reader α := fun cs => r (levelAlong cs) cs

end Grammar

namespace Expression

open Grammar

/-- What tags print, and what names are set to. -/
def argument : Reader Expression := anyDepth Grammar.argument

/-- What branches ask. -/
def condition : Reader Expression := anyDepth Grammar.condition

/-- What loops go through. -/
def container : Reader Expression :=
  anyDepth fun inner => filteredSum inner <|> filteredArray inner

end Expression

end ImageRecipe.Template
