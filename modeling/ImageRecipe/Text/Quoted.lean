import ImageRecipe.Text.Printable

/-!
# Quoted text in messages

A text between double quotes, as messages show it: what would not show by itself is written as an
escape, a single quote is left alone.
-/

namespace ImageRecipe.Text

/-- A digit in base sixteen, in lower case. -/
def hexDigit (n : Nat) : Char :=
  if n % 16 < 10 then Char.ofNat (48 + n % 16) else Char.ofNat (87 + n % 16)

/-- Digits in base sixteen without padding, put in front of `rest`. -/
def hexDigits : Nat → Nat → List Char → List Char
  | 0, _, rest => rest
  | fuel + 1, n, rest =>
    if n < 16 then hexDigit n :: rest else hexDigits fuel (n / 16) (hexDigit n :: rest)

/-- A character between double quotes. -/
def quotedChar (c : Char) : List Char :=
  if c = '"' then ['\\', '"']
  else if c = '\\' then ['\\', '\\']
  else if c = '\t' then ['\\', 't']
  else if c = '\r' then ['\\', 'r']
  else if c = '\n' then ['\\', 'n']
  else if c.toNat = 0 then ['\\', '0']
  else if isPrintable c then [c]
  else '\\' :: 'u' :: '{' :: hexDigits 8 c.toNat ['}']

/-- The text between double quotes, with escapes. -/
def quoted (s : String) : String := String.ofList ('"' :: (s.toList.flatMap quotedChar ++ ['"']))

end ImageRecipe.Text
