import ImageRecipe.Decimal.Notation

/-!
# Reading decimals

The double nearest to a decimal: an optional sign, digits with at most one point among or beside
them, and an optional exponent.

* `splitDecimal?` : the parts of the text
* `nearest` : the double for digits and a power of ten
* `read?` : the double for a text
-/

namespace ImageRecipe.Decimal

/-- A decimal as it is written: digits before and after the point, and the exponent. -/
structure Parts where
  whole : List Char
  fraction : List Char
  exponent : Int
  deriving DecidableEq, Repr

/-- The natural number that digits spell. -/
def digitsValue (ds : List Char) : Nat := ds.foldl (fun n c => n * 10 + (c.toNat - 48)) 0

/-- A sign at the front, true for minus, and what follows it. -/
def splitSign : List Char → Bool × List Char
  | '-' :: rest => (true, rest)
  | '+' :: rest => (false, rest)
  | cs => (false, cs)

/-- An exponent that reaches to the end, or nothing. -/
def exponent? : List Char → Option Int
  | [] => some 0
  | c :: rest =>
    if c = 'e' ∨ c = 'E' then
      let (negative, digits) := splitSign rest
      if digits.isEmpty || !digits.all Char.isDigit then none
      else some (if negative then -(digitsValue digits : Int) else digitsValue digits)
    else none

/-- The parts of a decimal without sign; there is a digit before or after the point. -/
def splitDecimal? (cs : List Char) : Option Parts :=
  let whole := cs.takeWhile Char.isDigit
  let (fraction, rest) := match cs.dropWhile Char.isDigit with
    | '.' :: rest => (rest.takeWhile Char.isDigit, rest.dropWhile Char.isDigit)
    | rest => ([], rest)
  if whole.isEmpty && fraction.isEmpty then none
  else (exponent? rest).map fun exponent => ⟨whole, fraction, exponent⟩

/-- The double nearest to `significand * 10 ^ power`.  Powers that lead out of the range of
doubles, whatever the digits, are cut short. -/
def nearest (significand : Nat) (power : Int) : Float :=
  if significand = 0 then 0
  else
    let leading := power + (naturalChars significand).length
    if 400 < leading then Float.ofScientific 1 false 400
    else if leading < -400 then 0
    else if power < 0 then Float.ofScientific significand true (-power).toNat
    else Float.ofScientific significand false power.toNat

/-- The double nearest to a decimal without sign. -/
def Parts.nearest (parts : Parts) : Float :=
  Decimal.nearest (digitsValue (parts.whole ++ parts.fraction))
    (parts.exponent - parts.fraction.length)

/-- The double nearest to the decimal that the characters spell. -/
def readChars? (cs : List Char) : Option Float :=
  let (negative, magnitude) := splitSign cs
  (splitDecimal? magnitude).map fun parts =>
    if negative then -parts.nearest else parts.nearest

/-- The double nearest to the decimal that the text spells. -/
def read? (s : String) : Option Float := readChars? s.toList

end ImageRecipe.Decimal
