import ImageRecipe.Yaml.Scalar

/-!
# YAML tokens

The marks and scalars of a text, in order, with the start and end of each block collection made
explicit from the indentation.  A key is known as one only at the colon behind it, so that its
mark is put in where the key began.

* `Token` : the tokens
* `Lexer` : the state between two tokens, of which `Lexer.step` reads one
* `tokensOf` : all tokens of a text
-/

namespace ImageRecipe.Yaml

/-- A token. -/
inductive Token where
  | versionDirective (major minor : Nat)
  | tagDirective (handle expansion : String)
  | documentStart
  | documentEnd
  | blockSequenceStart
  | blockMappingStart
  | blockEnd
  | flowSequenceStart
  | flowSequenceEnd
  | flowMappingStart
  | flowMappingEnd
  | blockEntry
  | flowEntry
  | key
  | value
  | alias (name : String)
  | anchor (name : String)
  | tag (handle suffix : String)
  | scalar (text : String) (plain : Bool)
  | endOfText
  deriving DecidableEq, Repr

/-- A place where a key without a mark may have begun.  It must be a key if a block collection
needs one there. -/
structure PossibleKey where
  possible : Bool := false
  required : Bool := false
  token : Nat := 0
  index : Nat := 0
  line : Nat := 0
  column : Nat := 0

/-- The state between two tokens: one possible key for each level of brackets, the innermost
first. -/
structure Lexer where
  cursor : Cursor
  tokens : Array Token := #[]
  indent : Int := -1
  outerIndents : List Int := []
  keyAllowed : Bool := true
  possibleKey : PossibleKey := {}
  outerKeys : List PossibleKey := []

namespace Lexer

/-- The lexer stands inside brackets or braces. -/
def inFlow (l : Lexer) : Bool := !l.outerKeys.isEmpty

/-- Adds a token at the end. -/
def emit (l : Lexer) (t : Token) : Lexer := { l with tokens := l.tokens.push t }

/-- Adds a token for the next `width` characters. -/
def emitMark (l : Lexer) (t : Token) (width : Nat) : Lexer :=
  { l with tokens := l.tokens.push t, cursor := l.cursor.advance width }

/-! ## Indentation -/

/-- Opens a block collection if the column is deeper than those that are open.  Its token goes to
the place `token`. -/
def openBlock (l : Lexer) (column : Nat) (token : Nat) (t : Token) : Lexer :=
  if l.inFlow || (column : Int) ≤ l.indent then l
  else { l with
    indent := column
    outerIndents := l.indent :: l.outerIndents
    tokens := l.tokens.insertIdxIfInBounds token t }

/-- Closes each open collection that is deeper than a column: the tokens, the indent that is left
and the indents around it. -/
def popIndents (column : Int) (tokens : Array Token) (indent : Int) :
    List Int → Array Token × Int × List Int
  | [] => (tokens, indent, [])
  | outer :: rest =>
    if column < indent then popIndents column (tokens.push .blockEnd) outer rest
    else (tokens, indent, outer :: rest)

/-- Closes the block collections that are deeper than a column. -/
def closeBlocks (l : Lexer) (column : Int) : Lexer :=
  if l.inFlow then l
  else
    let (tokens, indent, outerIndents) := popIndents column l.tokens l.indent l.outerIndents
    { l with tokens, indent, outerIndents }

/-! ## Possible keys -/

/-- The keys that lie on an earlier line, or too far back, are none after all. -/
def expire (c : Cursor) (key : PossibleKey) : Except Problem PossibleKey :=
  if key.possible && (key.line < c.line || key.index + 1024 < c.index) then
    if key.required then .error .missingColon else .ok { key with possible := false }
  else .ok key

/-- Drops possible keys that are too old. -/
def expireKeys (l : Lexer) : Except Problem Lexer := do
  let possibleKey ← expire l.cursor l.possibleKey
  let outerKeys ← l.outerKeys.mapM (expire l.cursor)
  return { l with possibleKey, outerKeys }

/-- The innermost possible key is none. -/
def dropKey (l : Lexer) : Except Problem Lexer :=
  if l.possibleKey.possible && l.possibleKey.required then .error .missingColon
  else .ok { l with possibleKey := { l.possibleKey with possible := false } }

/-- A key may begin here. -/
def saveKey (l : Lexer) : Except Problem Lexer := do
  if !l.keyAllowed then return l
  let l ← l.dropKey
  let c := l.cursor
  return { l with possibleKey :=
    { possible := true
      required := !l.inFlow && l.indent == (c.column : Int)
      token := l.tokens.size
      index := c.index
      line := c.line
      column := c.column } }

/-! ## Blanks and comments -/

/-- A mark of the byte order, which may start a line and takes one column. -/
def byteOrderMark : Char := Char.ofNat 0xFEFF

/-- Skips blanks, comments and line ends.  Outside brackets a tab may not indent, and a line end
allows a key. -/
def skipBlanks : Nat → Cursor → (inFlow keyAllowed : Bool) → Cursor × Bool
  | 0, c, _, keyAllowed => (c, keyAllowed)
  | fuel + 1, c, inFlow, keyAllowed =>
    let c := if c.column == 0 && c.sees byteOrderMark then c.advance 1 else c
    let c := c.skipWhile fun ch => ch == ' ' || ((inFlow || !keyAllowed) && ch == '\t')
    let c := if c.sees '#' then c.skipWhile fun ch => !isBreak ch else c
    if (c.peek?.map isBreak).getD false then
      skipBlanks fuel c.skipBreak inFlow (keyAllowed || !inFlow)
    else (c, keyAllowed)

/-! ## Directives -/

/-- The number of a version, of at most nine digits. -/
def versionNumber (c : Cursor) : Except Problem (Nat × Cursor) :=
  let digits := c.rest.takeWhile Char.isDigit
  if digits.isEmpty || 9 < digits.length then .error .badDirective
  else .ok (Decimal.digitsValue digits, c.advance digits.length)

/-- The handle of a tag.  In a directive it ends with an exclamation mark. -/
def tagHandle (directive : Bool) (c : Cursor) : Except Problem (List Char × Cursor) :=
  if !c.sees '!' then .error .badTag
  else
    let name := (c.rest.drop 1).takeWhile isNameChar
    let c := c.advance (name.length + 1)
    if c.sees '!' then .ok ('!' :: name ++ ['!'], c.advance 1)
    else if directive && !name.isEmpty then .error .badTag
    else .ok ('!' :: name, c)

/-- A character of a tag, besides those of names. -/
def isTagChar (flowMarks : Bool) (c : Char) : Bool :=
  isNameChar c || ";/?:@&=+$.%!~*'()".toList.contains c ||
    (flowMarks && (c == ',' || c == '[' || c == ']'))

/-- The number of bytes of a character whose first byte is this one. -/
def utf8Width? (byte : Nat) : Option Nat :=
  if byte < 0x80 then some 1
  else if byte / 0x20 == 6 then some 2
  else if byte / 0x10 == 0xE then some 3
  else if byte / 8 == 0x1E then some 4
  else none

/-- The bytes that percent signs and two digits each spell. -/
def escapedBytes : Nat → List Char → Option (List Nat)
  | 0, _ => some []
  | count + 1, '%' :: a :: b :: rest => do
    let high ← Json.hexValue? a
    let low ← Json.hexValue? b
    (escapedBytes count rest).map ((high * 16 + low) :: ·)
  | _ + 1, _ => none

/-- Stands for bytes that are no character. -/
def replacementChar : Char := Char.ofNat 0xFFFD

/-- The character of a code that was spelled with some number of bytes; none is spelled with more
bytes than it needs. -/
def charOfCode (code width : Nat) : Char :=
  let least := match width with
    | 1 => 0
    | 2 => 0x80
    | 3 => 0x800
    | _ => 0x10000
  if code.isValidChar ∧ least ≤ code then Char.ofNat code else replacementChar

/-- The character that escaped bytes spell, and how many there are. -/
def escapedChar? (cs : List Char) : Option (Char × Nat) := do
  let first ← (← escapedBytes 1 cs).head?
  let width ← utf8Width? first
  let bytes ← escapedBytes width cs
  if !(bytes.drop 1).all fun b => b / 0x40 == 2 then none
  let lead := match width with
    | 1 => first
    | 2 => first % 0x20
    | 3 => first % 0x10
    | _ => first % 8
  let code := (bytes.drop 1).foldl (fun n b => n * 0x40 + b % 0x40) lead
  return (charOfCode code width, width)

/-- The characters of a tag, and what is ahead then. -/
def tagChars (flowMarks : Bool) : Nat → List Char → Cursor → Except Problem (List Char × Cursor)
  | 0, _, _ => .error .outOfFuel
  | fuel + 1, done, c =>
    match c.rest with
    | [] => .ok (done.reverse, c)
    | ch :: _ =>
      if ch == '%' then
        match escapedChar? c.rest with
        | some (ch, width) => tagChars flowMarks fuel (ch :: done) (c.advance (3 * width))
        | none => .error .badTag
      else if isTagChar flowMarks ch then tagChars flowMarks fuel (ch :: done) (c.advance 1)
      else .ok (done.reverse, c)

/-- The characters of a tag behind some that were read already; there is at least one.  An escaped
zero ends the tag, whatever follows. -/
def tagSuffix (flowMarks : Bool) (head : List Char) (c : Cursor) :
    Except Problem (List Char × Cursor) := do
  let (cs, c) ← tagChars flowMarks (c.rest.length + 1) [] c
  if head.isEmpty && cs.isEmpty then throw .badTag
  return ((head.drop 1 ++ cs).takeWhile fun ch => ch != '\x00', c)

/-- A directive, from its percent sign to the end of the line. -/
def directive (l : Lexer) : Except Problem Lexer := do
  let l := l.closeBlocks (-1)
  let l ← l.dropKey
  let c := l.cursor.advance 1
  let name := c.rest.takeWhile isNameChar
  let c := c.advance name.length
  if name.isEmpty || !c.gapAt 0 then throw .badDirective
  let c := c.skipWhile isSpaceOrTab
  let (t, c) ←
    if name == "YAML".toList then do
      let (major, c) ← versionNumber c
      if !c.sees '.' then throw .badDirective
      let (minor, c) ← versionNumber (c.advance 1)
      pure (Token.versionDirective major minor, c)
    else if name == "TAG".toList then do
      let (handle, c) ← tagHandle true c
      if !(c.peek?.map isSpaceOrTab).getD false then throw .badDirective
      let (expansion, c) ← tagSuffix true [] (c.skipWhile isSpaceOrTab)
      if !c.gapAt 0 then throw .badDirective
      pure (Token.tagDirective (String.ofList handle) (String.ofList expansion), c)
    else throw Problem.badDirective
  let c := c.skipComment
  if !c.atLineEnd then throw .badDirective
  return { l.emit t with keyAllowed := false, cursor := c.skipBreak }

/-! ## Marks -/

/-- The mark that opens or closes a document. -/
def documentMark (l : Lexer) (t : Token) : Except Problem Lexer := do
  let l ← (l.closeBlocks (-1)).dropKey
  return { l.emitMark t 3 with keyAllowed := false }

/-- An opening bracket or brace. -/
def openFlow (l : Lexer) (t : Token) : Except Problem Lexer := do
  let l ← l.saveKey
  return { l.emitMark t 1 with
    outerKeys := l.possibleKey :: l.outerKeys
    possibleKey := {}
    keyAllowed := true }

/-- A closing bracket or brace. -/
def closeFlow (l : Lexer) (t : Token) : Except Problem Lexer := do
  let l ← l.dropKey
  let l := match l.outerKeys with
    | [] => l
    | outer :: rest => { l with possibleKey := outer, outerKeys := rest }
  return { l.emitMark t 1 with keyAllowed := false }

/-- A comma. -/
def flowEntry (l : Lexer) : Except Problem Lexer := do
  let l ← l.dropKey
  return { l.emitMark .flowEntry 1 with keyAllowed := true }

/-- A dash before a blank. -/
def blockEntry (l : Lexer) : Except Problem Lexer := do
  if !l.inFlow && !l.keyAllowed then throw .misplacedEntry
  let l := l.openBlock l.cursor.column l.tokens.size .blockSequenceStart
  let l ← l.dropKey
  return { l.emitMark .blockEntry 1 with keyAllowed := true }

/-- A question mark that announces a key. -/
def keyMark (l : Lexer) : Except Problem Lexer := do
  if !l.inFlow && !l.keyAllowed then throw .misplacedKey
  let l := l.openBlock l.cursor.column l.tokens.size .blockMappingStart
  let l ← l.dropKey
  return { l.emitMark .key 1 with keyAllowed := !l.inFlow }

/-- A colon.  If a key may have begun before it, the key's mark goes there, and so does the start
of a mapping if the key opens one. -/
def valueMark (l : Lexer) : Except Problem Lexer := do
  let key := l.possibleKey
  if key.possible then
    let l := { l with tokens := l.tokens.insertIdxIfInBounds key.token .key }
    let l := l.openBlock key.column key.token .blockMappingStart
    return { l.emitMark .value 1 with
      possibleKey := { key with possible := false }
      keyAllowed := false }
  else
    if !l.inFlow && !l.keyAllowed then throw .misplacedValue
    let l := l.openBlock l.cursor.column l.tokens.size .blockMappingStart
    return { l.emitMark .value 1 with keyAllowed := !l.inFlow }

/-- An anchor or an alias. -/
def anchorOrAlias (l : Lexer) (make : String → Token) : Except Problem Lexer := do
  let l ← l.saveKey
  let c := l.cursor.advance 1
  let name := c.rest.takeWhile isNameChar
  let c := c.advance name.length
  let ends := c.gapAt 0 || (c.peek?.map fun ch => "?:,]\x7d%@`".toList.contains ch).getD false
  if name.isEmpty || !ends then throw .badAnchor
  return { l.emit (make (String.ofList name)) with keyAllowed := false, cursor := c }

/-- A tag. -/
def tag (l : Lexer) : Except Problem Lexer := do
  let l ← l.saveKey
  let c := l.cursor
  let (handle, suffix, c) ←
    if c.rest[1]? == some '<' then do
      let (suffix, c) ← tagSuffix true [] (c.advance 2)
      if !c.sees '>' then throw Problem.badTag
      pure ([], suffix, c.advance 1)
    else do
      let (handle, c) ← tagHandle false c
      if 1 < handle.length && handle.getLast? == some '!' then
        let (suffix, c) ← tagSuffix false [] c
        pure (handle, suffix, c)
      else
        let (suffix, c) ← tagSuffix false handle c
        if suffix.isEmpty then pure ([], ['!'], c) else pure (['!'], suffix, c)
  if !c.gapAt 0 && !(l.inFlow && c.sees ',') then throw .badTag
  return { l.emit (.tag (String.ofList handle) (String.ofList suffix)) with
    keyAllowed := false
    cursor := c }

/-! ## Scalars -/

/-- Adds the token of a scalar. -/
def emitScalar (l : Lexer) (s : Scanned) (plain keyAllowed : Bool) : Lexer :=
  { l.emit (.scalar (String.ofList s.text) plain) with cursor := s.cursor, keyAllowed }

/-- A block scalar. -/
def blockScalar (l : Lexer) (literal : Bool) : Except Problem Lexer := do
  let l ← l.dropKey
  return l.emitScalar (← scanBlock literal l.indent l.cursor) false true

/-- A quoted scalar. -/
def quotedScalar (l : Lexer) (double : Bool) : Except Problem Lexer := do
  let l ← l.saveKey
  return l.emitScalar (← scanQuoted double l.cursor) false false

/-- A plain scalar. -/
def plainScalar (l : Lexer) : Except Problem Lexer := do
  let l ← l.saveKey
  let s ← scanPlain l.inFlow (l.indent + 1) l.cursor
  return l.emitScalar s true s.broken

/-- The character opens a token other than a plain scalar, or no token at all. -/
def isIndicator (c : Char) : Bool := "-?:,[]\x7b\x7d#&*!|>'\"%@`".toList.contains c

/-- The end of the text. -/
def finish (l : Lexer) : Except Problem Lexer := do
  let l ← (l.closeBlocks (-1)).dropKey
  return l.emit .endOfText

/-- Reads the token that begins with a character. -/
def readToken (l : Lexer) (ch : Char) : Except Problem Lexer :=
  let c := l.cursor
  let gapNext := c.gapAt 1
  if c.column == 0 && ch == '%' then l.directive
  else if c.atDocumentMark then l.documentMark (if ch == '-' then .documentStart else .documentEnd)
  else if ch == '[' then l.openFlow .flowSequenceStart
  else if ch == '{' then l.openFlow .flowMappingStart
  else if ch == ']' then l.closeFlow .flowSequenceEnd
  else if ch == '}' then l.closeFlow .flowMappingEnd
  else if ch == ',' then l.flowEntry
  else if ch == '-' && gapNext then l.blockEntry
  else if ch == '?' && (l.inFlow || gapNext) then l.keyMark
  else if ch == ':' && (l.inFlow || gapNext) then l.valueMark
  else if ch == '*' then l.anchorOrAlias .alias
  else if ch == '&' then l.anchorOrAlias .anchor
  else if ch == '!' then l.tag
  else if ch == '|' && !l.inFlow then l.blockScalar true
  else if ch == '>' && !l.inFlow then l.blockScalar false
  else if ch == '\'' then l.quotedScalar false
  else if ch == '"' then l.quotedScalar true
  else if (!isGap ch && !isIndicator ch) || ch == '-' ||
      (!l.inFlow && (ch == '?' || ch == ':')) then
    l.plainScalar
  else .error .unexpectedCharacter

/-- Skips to the next token and closes the blocks that end before it. -/
def approach (l : Lexer) : Except Problem Lexer := do
  let (cursor, keyAllowed) := skipBlanks (l.cursor.rest.length + 1) l.cursor l.inFlow l.keyAllowed
  let l ← { l with cursor, keyAllowed }.expireKeys
  return l.closeBlocks cursor.column

/-- Reads tokens to the end of the text. -/
def run : Nat → Lexer → Except Problem Lexer
  | 0, _ => .error .outOfFuel
  | fuel + 1, l => do
    let l ← l.approach
    match l.cursor.rest with
    | [] => l.finish
    | ch :: _ => run fuel (← l.readToken ch)

end Lexer

/-- The tokens of a text. -/
def tokensOf (s : String) : Except Problem (List Token) := do
  let cs := s.toList
  if !cs.all isAllowed then throw .controlCharacter
  let l ← Lexer.run (cs.length + 2) { cursor := .start cs }
  return l.tokens.toList

end ImageRecipe.Yaml
