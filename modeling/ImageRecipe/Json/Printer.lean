import ImageRecipe.Json.Basic
import ImageRecipe.Text.Quoted

/-!
# Compact JSON text

One spelling for each tree: no spaces, members in order, controls escaped and every other
character as itself.

* `Json.stringChars` : a string between quotes
* `Json.chars`, `Json.text` : a tree
-/

namespace ImageRecipe.Json

/-- A character inside a string.  The common controls have escapes of one letter, the others of
four digits. -/
def escapedChar (c : Char) : List Char :=
  if c = '"' then ['\\', '"']
  else if c = '\\' then ['\\', '\\']
  else if c = '\n' then ['\\', 'n']
  else if c = '\r' then ['\\', 'r']
  else if c = '\t' then ['\\', 't']
  else if c.toNat = 0x08 then ['\\', 'b']
  else if c.toNat = 0x0C then ['\\', 'f']
  else if c.toNat < 0x20 then
    ['\\', 'u', '0', '0', Text.hexDigit (c.toNat / 16), Text.hexDigit (c.toNat % 16)]
  else [c]

/-- A string between quotes. -/
def stringChars (s : String) : List Char := '"' :: (s.toList.flatMap escapedChar ++ ['"'])

mutual

/-- The compact text of a tree. -/
def chars : Json → List Char
  | .null => ['n', 'u', 'l', 'l']
  | .bool true => ['t', 'r', 'u', 'e']
  | .bool false => ['f', 'a', 'l', 's', 'e']
  | .whole n => Decimal.integerChars n.value
  | .real x => Decimal.scientific.chars x.value
  | .string s => stringChars s
  | .array items => '[' :: (itemsChars items ++ [']'])
  | .object ⟨entries⟩ => '{' :: (entriesChars entries ++ ['}'])

/-- The items of an array with commas between them. -/
def itemsChars : List Json → List Char
  | [] => []
  | [item] => item.chars
  | item :: next :: rest => item.chars ++ ',' :: itemsChars (next :: rest)

/-- The members of an object with commas between them. -/
def entriesChars : List (String × Json) → List Char
  | [] => []
  | [(key, value)] => stringChars key ++ ':' :: value.chars
  | (key, value) :: next :: rest =>
    stringChars key ++ ':' :: (value.chars ++ ',' :: entriesChars (next :: rest))

end

/-- The compact text of a tree. -/
def text (j : Json) : String := String.ofList j.chars

end ImageRecipe.Json
