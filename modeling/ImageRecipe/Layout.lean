import ImageRecipe.Text.Blank

/-!
# Layout of instruction lines

How the parts of one instruction are put together.

* `joinWith` : texts with a separator between them
* `joinItems`, `joinPairs` : one entry a physical line, continued by a break and an indent
* `Parts.join` : parts with a delimiter, missing and empty ones left out
-/

namespace ImageRecipe.Layout

/-- The texts with `separator` between each two. -/
def joinWith (separator : String) : List String → String
  | [] => ""
  | [only] => only
  | first :: second :: rest => first ++ separator ++ joinWith separator (second :: rest)

/-- The text between double quotes, its own characters unchanged. -/
def wrapInQuotes (s : String) : String := "\"" ++ s ++ "\""

/-- A number of plain spaces. -/
def spaces (count : Nat) : String := String.ofList (List.replicate count ' ')

/-- How a list of entries is spread over lines: what ends a line that is continued, how far the
next one is indented, and whether each text stands between quotes. -/
structure Spread where
  lineBreak : String
  indent : Nat
  quote : Bool

/-- A backslash continues a line; it stands after a space. -/
def continuation : String := " \\\n"

/-- Between a key and its value. -/
def keyValueDelimiter : String := "="

/-- A text with the quotes that the spread asks for. -/
def Spread.wrap (spread : Spread) (s : String) : String :=
  if spread.quote then wrapInQuotes s else s

/-- What stands between two entries. -/
def Spread.separator (spread : Spread) : String := spread.lineBreak ++ spaces spread.indent

/-- The items, one a line. -/
def joinItems (spread : Spread) (items : List String) : String :=
  joinWith spread.separator (items.map spread.wrap)

/-- The pairs, one a line, each key and value with a delimiter between them. -/
def joinPairs (spread : Spread) (delimiter : String) (pairs : List (String × String)) : String :=
  joinWith spread.separator
    (pairs.map fun p => spread.wrap p.1 ++ delimiter ++ spread.wrap p.2)

/-- What `Parts.join` puts together. -/
inductive Parts where
  | text (s : String)
  | list (parts : List (Option String))

/-- The parts that are there and not empty. -/
def presentParts (parts : List (Option String)) : List String :=
  (parts.filterMap id).filter fun s => !s.isEmpty

/-- A text stays as it is; of a list, the parts that are there and not empty are joined. -/
def Parts.join (delimiter : String) : Parts → String
  | .text s => s
  | .list parts => joinWith delimiter (presentParts parts)

/-- Joins the parts that are there and not empty. -/
def joinPresent (delimiter : String) (parts : List (Option String)) : String :=
  (Parts.list parts).join delimiter

end ImageRecipe.Layout
