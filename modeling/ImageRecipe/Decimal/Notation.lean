import ImageRecipe.Decimal.Shortest

/-!
# Notations for numbers

How the digits of a number are set down.  A `Style` lists the decisions; `plain`, `scientific`
and `named` are the three that this library writes.

* `integerText` : an optional minus sign and digits
* `plain` : always positional, a whole number without a point
* `scientific` : positional for moderate exponents, always with a point or an exponent
* `named` : the same for names of entries
-/

namespace ImageRecipe.Decimal

/-! ## Whole numbers -/

/-- The digit character of a number below ten. -/
def digitChar (n : Nat) : Char := Char.ofNat (48 + n % 10)

/-- The decimal digits of a natural number. -/
def naturalChars (n : Nat) : List Char :=
  if n < 10 then [digitChar n] else naturalChars (n / 10) ++ [digitChar (n % 10)]

/-- The decimal digits of a natural number. -/
def naturalText (n : Nat) : String := String.ofList (naturalChars n)

/-- A minus sign for a negative number, then its digits. -/
def integerChars : Int → List Char
  | .ofNat n => naturalChars n
  | .negSucc n => '-' :: naturalChars (n + 1)

/-- A minus sign for a negative number, then its digits. -/
def integerText (n : Int) : String := String.ofList (integerChars n)

/-! ## Doubles -/

/-- The decisions of a notation for doubles. -/
structure Style where
  /-- Where two shortest decimals are equally near. -/
  tie : Tie
  /-- Positional notation is used for these exponents of the leading digit; `none` for all. -/
  positional : Option (Int × Int)
  /-- What follows a whole number in positional notation. -/
  wholeSuffix : String
  /-- Stands before an exponent that is not negative. -/
  exponentSign : List Char
  /-- Written for NaN. -/
  nan : String
  /-- Written for an infinity, after its sign. -/
  infinity : String

/-- Digits with the point after the first `point` of them, zeros filled in on either side. -/
def positionalChars (wholeSuffix : List Char) (digits : List Char) (point : Int) : List Char :=
  if point ≤ 0 then '0' :: '.' :: (List.replicate (-point).toNat '0' ++ digits)
  else if (digits.length : Int) ≤ point then
    digits ++ List.replicate (point - digits.length).toNat '0' ++ wholeSuffix
  else digits.take point.toNat ++ '.' :: digits.drop point.toNat

/-- One digit, the others after a point, and the exponent; `sign` stands before an exponent that
is not negative. -/
def exponentChars (sign digits : List Char) (leading : Int) : List Char :=
  let fraction := match digits with
    | first :: second :: rest => first :: '.' :: second :: rest
    | short => short
  fraction ++ 'e' :: ((if leading < 0 then [] else sign) ++ integerChars leading)

/-- The characters of a double. -/
def Style.chars (style : Style) (x : Float) : List Char :=
  let signed := fun (negative : Bool) (cs : List Char) => if negative then '-' :: cs else cs
  match decode x with
  | .nan => style.nan.toList
  | .infinite negative => signed negative style.infinity.toList
  | .zero negative => signed negative ('0' :: style.wholeSuffix.toList)
  | .finite negative b =>
    let d := shortest style.tie b
    let digits := naturalChars d.value
    let point := d.exponent + digits.length
    let inRange := match style.positional with
      | none => true
      | some (least, most) => least ≤ point - 1 && point - 1 ≤ most
    signed negative <|
      if inRange then positionalChars style.wholeSuffix.toList digits point
      else exponentChars style.exponentSign digits (point - 1)

/-- The text of a double. -/
def Style.text (style : Style) (x : Float) : String := String.ofList (style.chars x)

/-- Doubles in instruction lines: never an exponent, and a whole number has no point. -/
def plain : Style := ⟨.up, none, "", [], "NaN", "inf"⟩

/-- Doubles in data notation: an exponent, always signed, below `1e-5` and from `1e+16` on, and a
whole number keeps `.0` so that it reads back as a double. -/
def scientific : Style := ⟨.toEven, some (-5, 15), ".0", ['+'], "NaN", "inf"⟩

/-- Doubles as names of entries: as in data notation, but an exponent has only a minus sign, and
NaN and infinity are spelled with a leading point. -/
def named : Style := ⟨.toEven, some (-5, 15), ".0", [], ".nan", ".inf"⟩

end ImageRecipe.Decimal
