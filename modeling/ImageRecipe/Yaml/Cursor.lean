import ImageRecipe.Yaml.Problem

/-!
# Reading positions in a YAML text

A `Cursor` is the text that is still ahead, with the place it starts at.  Lines end at the usual
line ends and at three further characters; a carriage return with a line feed is one line end.
-/

namespace ImageRecipe.Yaml

/-- The character ends a line. -/
def isBreak (c : Char) : Bool :=
  c == '\n' || c == '\r' || c.toNat == 0x85 || c.toNat == 0x2028 || c.toNat == 0x2029

/-- A space or a tab. -/
def isSpaceOrTab (c : Char) : Bool := c == ' ' || c == '\t'

/-- A space, a tab or a line end. -/
def isGap (c : Char) : Bool := isSpaceOrTab c || isBreak c

/-- The text may hold the character. -/
def isAllowed (c : Char) : Bool :=
  let n := c.toNat
  n == 0x09 || n == 0x0A || n == 0x0D || (0x20 ≤ n && n ≤ 0x7E) || n == 0x85 ||
    (0xA0 ≤ n && n ≤ 0xD7FF) || (0xE000 ≤ n && n ≤ 0xFFFD) || 0x10000 ≤ n

/-- A character of the name of an anchor, a directive or a tag handle. -/
def isNameChar (c : Char) : Bool := c.isAlphanum || c == '_' || c == '-'

/-- The text ahead and the place where it starts. -/
structure Cursor where
  rest : List Char
  index : Nat
  line : Nat
  column : Nat

namespace Cursor

/-- The start of a text. -/
def start (cs : List Char) : Cursor := ⟨cs, 0, 0, 0⟩

/-- The next character. -/
def peek? (c : Cursor) : Option Char := c.rest.head?

/-- The next character is this one. -/
def sees (c : Cursor) (ch : Char) : Bool := c.rest.head? == some ch

/-- The characters at some distance are missing, or a space, tab or line end is there. -/
def gapAt (c : Cursor) (distance : Nat) : Bool :=
  match c.rest[distance]? with
  | none => true
  | some ch => isGap ch

/-- Nothing is ahead on this line. -/
def atLineEnd (c : Cursor) : Bool :=
  match c.rest with
  | [] => true
  | ch :: _ => isBreak ch

/-- The place after some characters of this line. -/
def advance (c : Cursor) (count : Nat) : Cursor :=
  ⟨c.rest.drop count, c.index + count, c.line, c.column + count⟩

/-- The place behind the line end that is ahead, and the character that stands for it in scalars. -/
def takeBreak (c : Cursor) : List Char × Cursor :=
  match c.rest with
  | '\r' :: '\n' :: rest => (['\n'], ⟨rest, c.index + 2, c.line + 1, 0⟩)
  | ch :: rest =>
    if isBreak ch then
      let kept := if ch.toNat == 0x2028 || ch.toNat == 0x2029 then ch else '\n'
      ([kept], ⟨rest, c.index + 1, c.line + 1, 0⟩)
    else ([], c)
  | [] => ([], c)

/-- The place behind the line end that is ahead. -/
def skipBreak (c : Cursor) : Cursor := c.takeBreak.2

/-- The place behind the characters of this line that satisfy a condition. -/
def skipWhile (c : Cursor) (p : Char → Bool) : Cursor := c.advance (c.rest.takeWhile p).length

/-- The place at the end of this line, if the rest of it is blank or a comment. -/
def skipComment (c : Cursor) : Cursor :=
  let c := c.skipWhile isSpaceOrTab
  if c.sees '#' then c.skipWhile fun ch => !isBreak ch else c

/-- A mark that opens or closes a document stands at the start of the line. -/
def atDocumentMark (c : Cursor) : Bool :=
  c.column == 0 && c.gapAt 3 &&
    (c.rest.take 3 == ['-', '-', '-'] || c.rest.take 3 == ['.', '.', '.'])

end Cursor

end ImageRecipe.Yaml
