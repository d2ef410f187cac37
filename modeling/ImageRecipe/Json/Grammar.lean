/-!
# The grammar of JSON texts

The strict notation, said of the characters alone and without any reader: no comments, no trailing
commas, no leading zeros, and no raw control characters in strings.

* `Json.IsInside`, `Json.IsNumber` : what stands between quotes, and how numbers are written
* `Json.IsValue`, `Json.IsElements`, `Json.IsMembers` : values, items of arrays, members of objects
* `Json.IsText` : a whole text
-/

namespace ImageRecipe.Json

/-- White space between tokens, or nothing. -/
def IsGap (cs : List Char) : Prop := ∀ c ∈ cs, c ∈ [' ', '\n', '\t', '\r']

/-- Digits in base ten, at least one. -/
def IsDigits (cs : List Char) : Prop := cs ≠ [] ∧ ∀ c ∈ cs, '0' ≤ c ∧ c ≤ '9'

/-- A digit in base sixteen. -/
def IsHexDigit (c : Char) : Prop :=
  ('0' ≤ c ∧ c ≤ '9') ∨ ('a' ≤ c ∧ c ≤ 'f') ∨ ('A' ≤ c ∧ c ≤ 'F')

/-- What stands between the quotes of a string: characters as they are, but for quotes, backslashes
and controls, and escapes of one letter or of four digits. -/
inductive IsInside : List Char → Prop where
  | nil : IsInside []
  | plain {c : Char} {cs : List Char} :
      c ≠ '"' → c ≠ '\\' → 0x20 ≤ c.toNat → IsInside cs → IsInside (c :: cs)
  | letter {c : Char} {cs : List Char} :
      c ∈ ['"', '\\', '/', 'b', 'f', 'n', 'r', 't'] → IsInside cs → IsInside ('\\' :: c :: cs)
  | code {a b c d : Char} {cs : List Char} :
      IsHexDigit a → IsHexDigit b → IsHexDigit c → IsHexDigit d → IsInside cs →
        IsInside ('\\' :: 'u' :: a :: b :: c :: d :: cs)

/-- The fraction of a number, or nothing. -/
inductive IsFraction : List Char → Prop where
  | none : IsFraction []
  | some {digits : List Char} : IsDigits digits → IsFraction ('.' :: digits)

/-- The exponent of a number, or nothing. -/
inductive IsExponent : List Char → Prop where
  | none : IsExponent []
  | some {letter : Char} {sign digits : List Char} :
      letter ∈ ['e', 'E'] → sign ∈ [[], ['+'], ['-']] → IsDigits digits →
        IsExponent (letter :: (sign ++ digits))

/-- A number: only zero itself starts with a zero. -/
inductive IsNumber : List Char → Prop where
  | mk {sign whole fraction exponent : List Char} :
      sign ∈ [[], ['-']] → IsDigits whole → (whole.head? = some '0' → whole = ['0']) →
        IsFraction fraction → IsExponent exponent →
          IsNumber (sign ++ (whole ++ (fraction ++ exponent)))

mutual

/-- A value without white space around it. -/
inductive IsValue : List Char → Prop where
  | null : IsValue ['n', 'u', 'l', 'l']
  | true : IsValue ['t', 'r', 'u', 'e']
  | false : IsValue ['f', 'a', 'l', 's', 'e']
  | number {cs : List Char} : IsNumber cs → IsValue cs
  | string {cs : List Char} : IsInside cs → IsValue ('"' :: (cs ++ ['"']))
  | emptyArray {gap : List Char} : IsGap gap → IsValue ('[' :: (gap ++ [']']))
  | array {cs : List Char} : IsElements cs → IsValue ('[' :: (cs ++ [']']))
  | emptyObject {gap : List Char} : IsGap gap → IsValue ('{' :: (gap ++ ['}']))
  | object {cs : List Char} : IsMembers cs → IsValue ('{' :: (cs ++ ['}']))

/-- A value with white space around it. -/
inductive IsElement : List Char → Prop where
  | mk {before cs behind : List Char} :
      IsGap before → IsValue cs → IsGap behind → IsElement (before ++ (cs ++ behind))

/-- The items of an array, with commas between them. -/
inductive IsElements : List Char → Prop where
  | one {cs : List Char} : IsElement cs → IsElements cs
  | more {cs rest : List Char} : IsElement cs → IsElements rest → IsElements (cs ++ ',' :: rest)

/-- A key and its value, with a colon between them. -/
inductive IsMember : List Char → Prop where
  | mk {before key behind cs : List Char} :
      IsGap before → IsInside key → IsGap behind → IsElement cs →
        IsMember (before ++ '"' :: (key ++ '"' :: (behind ++ ':' :: cs)))

/-- The members of an object, with commas between them. -/
inductive IsMembers : List Char → Prop where
  | one {cs : List Char} : IsMember cs → IsMembers cs
  | more {cs rest : List Char} : IsMember cs → IsMembers rest → IsMembers (cs ++ ',' :: rest)

end

/-- The text is one value, with white space around it at most. -/
def IsText (s : String) : Prop := IsElement s.toList

end ImageRecipe.Json
