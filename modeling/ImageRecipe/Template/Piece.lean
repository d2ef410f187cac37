import ImageRecipe.Template.Expression.Reader

/-!
# Pieces of a template text

A template text is cut into plain text, verbatim text, comments, and tags.  Each mark of a tag may
carry a dash, which cuts away the blanks on its side.

* `Tag`, `Piece` : what a text is made of
* `Piece.ofChars?` : the pieces of a text
-/

namespace ImageRecipe.Template

open Reader Grammar

/-- The dashes at the marks of a tag: at its front, and at its back. -/
structure Dashes where
  front : Bool
  back : Bool
  deriving DecidableEq, Repr

/-- What a loop goes through, and the names it gives to what it meets. -/
structure Heading where
  key : Option String
  value : String
  container : Expression

/-- What stands in a tag. -/
inductive Tag where
  | output (value : Expression)
  | comment
  | assign (name : String) (outside : Bool) (value : Expression)
  | insertion (names : List String) (optional : Bool)
  | parent (name : String)
  | openBlock (name : String)
  | closeBlock
  | openBranch (condition : Expression)
  | nextBranch (condition : Expression)
  | otherwise
  | closeBranch
  | openLoop (heading : Heading)
  | closeLoop
  | leaveLoop
  | nextRound

/-- A piece of a template text. -/
inductive Piece where
  | text (content : List Char)
  | verbatim (opening : Dashes) (content : List Char) (closing : Dashes)
  | tag (dashes : Dashes) (tag : Tag)

namespace Piece

/-! ## Marks -/

/-- A mark at the front of a tag; tells whether a dash follows. -/
def frontMark (mark : List Char) : Reader Bool := exactly mark *> given (only '-')

/-- A mark at the back of a tag, behind blanks; tells whether a dash precedes it. -/
def backMark (mark : List Char) : Reader Bool :=
  behindGap ((do exactly ('-' :: mark); return true) <|> (do exactly mark; return false))

/-- What stands between marks, with the dashes. -/
def between {α : Type} (front back : List Char) (inside : Reader α) : Reader (Dashes × α) := do
  let dashFront ← frontMark front
  let a ← inside
  let dashBack ← backMark back
  return (⟨dashFront, dashBack⟩, a)

/-- What stands in a tag with a keyword. -/
def inTag {α : Type} (inside : Reader α) : Reader (Dashes × α) :=
  between ['{', '%'] ['%', '}'] inside

/-! ## Tags -/

/-- A string, without its quotes. -/
def stringText : Reader String := do
  return (← behindGap quotedText).2

/-- Strings in brackets, with commas between them and perhaps one at the end. -/
def stringTexts : Reader (List String) := do
  token "["
  let texts ← many do
    let text ← stringText
    token ","
    return text
  let last ← maybe stringText
  token "]"
  return texts ++ last.toList

/-- A name and the value it is set to. -/
def assignment (outside : Bool) : Reader Tag := do
  let target ← behindGap name
  token "="
  return .assign target outside (← Expression.argument)

/-- The heading of a loop, behind its keyword.  No blank stands in front of the comma. -/
def heading : Reader Heading := do
  let first ← behindGap name
  let second ← maybe do
    only ','
    behindGap name
  word "in"
  let container ← Expression.container
  match second with
  | some value => return ⟨some first, value, container⟩
  | none => return ⟨none, first, container⟩

/-- What stands in a tag with a keyword.  A blank follows a keyword that something belongs to. -/
def keywordTag : Reader Tag :=
  (do
    word "include"
    let names ← (do return [← stringText]) <|> stringTexts
    let optional ← given (token "ignore" *> token "missing")
    return .insertion names optional) <|>
  (do word "set"; assignment false) <|>
  (do word "set_global"; assignment true) <|>
  (do word "extends"; return .parent (← stringText)) <|>
  (do word "block"; return .openBlock (← behindGap name)) <|>
  (do token "endblock"; let _ ← maybe (behindGap name); return .closeBlock) <|>
  (do word "if"; return .openBranch (← Expression.condition)) <|>
  (do word "elif"; return .nextBranch (← Expression.condition)) <|>
  (do token "else"; return .otherwise) <|>
  (do token "endif"; return .closeBranch) <|>
  (do word "for"; return .openLoop (← heading)) <|>
  (do token "endfor"; return .closeLoop) <|>
  (do token "break"; return .leaveLoop) <|>
  (do token "continue"; return .nextRound)

/-- The end of a comment: its dash, and what follows. -/
def commentEnd : List Char → Option (Bool × List Char)
  | '-' :: '#' :: '}' :: rest => some (true, rest)
  | '#' :: '}' :: rest => some (false, rest)
  | _ :: rest => commentEnd rest
  | [] => none

/-- The inside of a comment, which is not empty, and its end. -/
def commentRest : List Char → Option (Bool × List Char)
  | '-' :: '#' :: '}' :: _ | '#' :: '}' :: _ | [] => none
  | _ :: rest => commentEnd rest

/-- A comment. -/
def comment : Reader Piece := do
  let front ← frontMark ['{', '#']
  let back ← commentRest
  return .tag ⟨front, back⟩ .comment

/-- A tag that prints. -/
def outputTag : Reader Piece := do
  let (dashes, value) ← between ['{', '{'] ['}', '}'] Expression.argument
  return .tag dashes (.output value)

/-- Text up to the tag that ends verbatim text. -/
def verbatimEnd : List Char → Option ((List Char × Dashes) × List Char)
  | [] => none
  | c :: rest =>
    match inTag (token "endraw") (c :: rest) with
    | some ((dashes, ()), left) => some (([], dashes), left)
    | none => (verbatimEnd rest).map fun ((content, dashes), left) => ((c :: content, dashes), left)

/-- Verbatim text, with the tags around it. -/
def verbatimText : Reader Piece := do
  let (opening, ()) ← inTag (token "raw")
  let (content, closing) ← verbatimEnd
  return .verbatim opening content closing

/-- A tag with a keyword, or verbatim text. -/
def keywordPiece : Reader Piece :=
  (do
    let (dashes, found) ← inTag keywordTag
    return .tag dashes found) <|>
  verbatimText

/-! ## Texts -/

/-- The front mark of a tag is ahead. -/
def atMark : List Char → Bool
  | '{' :: c :: _ => c == '{' || c == '%' || c == '#'
  | _ => false

/-- The text up to the next mark. -/
def splitAtMark : List Char → List Char × List Char
  | [] => ([], [])
  | c :: rest =>
    if atMark (c :: rest) then ([], c :: rest)
    else
      let (content, left) := splitAtMark rest
      (c :: content, left)

/-- What starts at a mark. -/
def marked : Reader Piece := outputTag <|> comment <|> keywordPiece

/-- The pieces of a text; each takes at least one of the `bound` characters. -/
def ofCharsUpTo : Nat → List Char → Option (List Piece)
  | _, [] => some []
  | 0, _ => none
  | bound + 1, cs =>
    if atMark cs then
      match marked cs with
      | some (piece, rest) => (ofCharsUpTo bound rest).map (piece :: ·)
      | none => none
    else
      let (content, rest) := splitAtMark cs
      (ofCharsUpTo bound rest).map (.text content :: ·)

/-- The pieces of a text, or nothing if a tag is malformed. -/
def ofChars? (cs : List Char) : Option (List Piece) := ofCharsUpTo cs.length cs

end Piece

end ImageRecipe.Template
