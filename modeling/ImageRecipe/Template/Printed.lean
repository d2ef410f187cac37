import ImageRecipe.Json.Printer

/-!
# Values in templates

* `Json.printed` : a value as templates write it
* `Json.isTruthy` : a value as a condition
* `Json.prettyChars` : a value over several lines
-/

namespace ImageRecipe

mutual

/-- A value as templates write it: null as nothing, strings as they are, and no inside of
objects. -/
def Json.printedChars : Json → List Char
  | .null => []
  | .bool true => ['t', 'r', 'u', 'e']
  | .bool false => ['f', 'a', 'l', 's', 'e']
  | .whole n => Decimal.integerChars n.value
  | .real x => Decimal.plain.chars x.value
  | .string s => s.toList
  | .array items => '[' :: (printedItems items ++ [']'])
  | .object _ => "[object]".toList

/-- Items with commas and spaces between them. -/
def printedItems : List Json → List Char
  | [] => []
  | [item] => item.printedChars
  | item :: next :: rest => item.printedChars ++ ',' :: ' ' :: printedItems (next :: rest)

end

/-- A value as templates write it. -/
def Json.printed : Json → String
  | .string s => s
  | j => String.ofList j.printedChars

/-- A value as a condition: null, zero and whatever is empty do not hold. -/
def Json.isTruthy : Json → Bool
  | .null => false
  | .bool b => b
  | .whole n => n.value ≠ 0
  | .real x => x.value != 0
  | .string s => !s.isEmpty
  | .array items => !items.isEmpty
  | .object members => !members.isEmpty

mutual

/-- A tree on lines of its own, two spaces deeper at each level; `margin` is where it stands. -/
def Json.prettyChars (margin : List Char) : Json → List Char
  | .array [] => ['[', ']']
  | .array items =>
    '[' :: '\n' :: (prettyItems (' ' :: ' ' :: margin) items ++ '\n' :: (margin ++ [']']))
  | .object ⟨[]⟩ => ['{', '}']
  | .object ⟨entries⟩ =>
    '{' :: '\n' :: (prettyMembers (' ' :: ' ' :: margin) entries ++ '\n' :: (margin ++ ['}']))
  | leaf => leaf.chars

/-- Items on lines of their own. -/
def prettyItems (margin : List Char) : List Json → List Char
  | [] => []
  | [item] => margin ++ item.prettyChars margin
  | item :: next :: rest =>
    margin ++ (item.prettyChars margin ++ ',' :: '\n' :: prettyItems margin (next :: rest))

/-- Members on lines of their own. -/
def prettyMembers (margin : List Char) : List (String × Json) → List Char
  | [] => []
  | [(key, value)] => margin ++ (Json.stringChars key ++ ':' :: ' ' :: value.prettyChars margin)
  | (key, value) :: next :: rest =>
    margin ++ (Json.stringChars key ++ ':' :: ' ' ::
      (value.prettyChars margin ++ ',' :: '\n' :: prettyMembers margin (next :: rest)))

end

end ImageRecipe
