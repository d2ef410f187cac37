import ImageRecipe.Text.Letters
import ImageRecipe.Dockerfile.Quoted

/-!
# The grammar of a Dockerfile

Each rule takes the text ahead and gives what is left of it, or nothing if it does not fit.  A rule
takes the first alternative that fits and as much as it can, and never comes back to a choice.

* `gap`, `word`, `breakable` : what statements are made of
* `Statement` : an instruction with the words that were found in it
* `statement` : the first form of instruction that fits
-/

namespace ImageRecipe.Dockerfile

/-- The text ahead. -/
abbrev Rest := List Char

/-! ## Lines -/

/-- A space or a tab. -/
def isSpace (c : Char) : Bool := c == ' ' || c == '\t'

/-- The character opens a line end. -/
def isLineEnd (c : Char) : Bool := c == '\n' || c == '\r'

/-- A line end. -/
def newline : Rest → Option Rest
  | '\r' :: '\n' :: rest => some rest
  | '\n' :: rest => some rest
  | '\r' :: rest => some rest
  | _ => none

/-- What follows the spaces and tabs. -/
def skipSpaces (cs : Rest) : Rest := cs.dropWhile isSpace

/-- A backslash at the end of a line. -/
def continuation : Rest → Option Rest
  | '\\' :: rest => newline (skipSpaces rest)
  | _ => none

/-- A comment up to the end of its line. -/
def comment : Rest → Option Rest
  | '#' :: rest => some (rest.dropWhile fun c => !isLineEnd c)
  | _ => none

/-- A comment on a line of its own, with the line end if there is one. -/
def commentLine (cs : Rest) : Option Rest :=
  (comment (skipSpaces cs)).map fun rest => (newline rest).getD rest

/-- A line without anything on it. -/
def emptyLine (cs : Rest) : Option Rest := newline (skipSpaces cs)

/-- Comment lines and empty lines. -/
def skipLines : Nat → Rest → Rest
  | 0, cs => cs
  | fuel + 1, cs =>
    match commentLine cs with
    | some rest => skipLines fuel rest
    | none =>
      match emptyLine cs with
      | some rest => skipLines fuel rest
      | none => cs

/-- Spaces, and continued lines with the comments and empty lines after them. -/
def skipGap : Nat → Rest → Rest
  | 0, cs => cs
  | fuel + 1, cs =>
    match cs with
    | [] => []
    | c :: rest =>
      if isSpace c then skipGap fuel rest
      else match continuation cs with
        | some rest => skipGap fuel (skipLines rest.length rest)
        | none => cs

/-- Space between two words, which may be missing. -/
def gapMaybe (cs : Rest) : Rest := skipGap (cs.length + 1) cs

/-- Space between two words. -/
def gap (cs : Rest) : Option Rest :=
  let rest := gapMaybe cs
  if rest.length < cs.length then some rest else none

/-! ## Words -/

/-- A word and what is left. -/
abbrev Word := List Char × Rest

/-- The characters at the front that satisfy a condition; there is at least one. -/
def run (p : Char → Bool) (cs : Rest) : Option Word :=
  let word := cs.takeWhile p
  if word.isEmpty then none else some (word, cs.dropWhile p)

/-- A space, a line end or a continued line is ahead, or nothing. -/
def atGap (cs : Rest) : Bool :=
  match cs with
  | [] => true
  | c :: _ => isSpace c || isLineEnd c || (continuation cs).isSome

/-- The characters up to the next gap. -/
def splitAtGap : Rest → Word
  | [] => ([], [])
  | c :: rest =>
    if atGap (c :: rest) then ([], c :: rest)
    else
      let (word, left) := splitAtGap rest
      (c :: word, left)

/-- A word up to the next gap. -/
def word (cs : Rest) : Option Word :=
  let (w, rest) := splitAtGap cs
  if w.isEmpty then none else some (w, rest)

/-- A word up to the next space, line end or equals sign. -/
def nameWord (cs : Rest) : Option Word := run (fun c => !isSpace c && !isLineEnd c && c != '=') cs

/-- A word of letters. -/
def letters (cs : Rest) : Option Word := run Char.isAlpha cs

/-- A word in any ASCII case. -/
def keyword (name : String) (cs : Rest) : Option Rest :=
  let length := name.length
  if (cs.take length).map Text.asciiUpperChar == name.toList then some (cs.drop length) else none

/-- One character. -/
def char (c : Char) : Rest → Option Rest
  | d :: rest => if d = c then some rest else none
  | [] => none

/-! ## Quoted strings -/

/-- How many characters behind a backslash belong to its escape. -/
def escapeLength (rest : Rest) : Nat :=
  match rest with
  | [] => 0
  | c :: digits =>
    let hex := fun (n : Nat) =>
      (digits.take n).length == n && (digits.take n).all fun d => (Json.hexValue? d).isSome
    if "btnfr\"\\'".toList.contains c then 1
    else if c == 'u' && hex 4 then 5
    else if c == 'U' && hex 8 then 9
    else match newline rest with
      | some left => rest.length - left.length
      | none => 0

/-- The inside of a quoted string, up to a character that cannot belong to it. -/
def quotedInside (quote : Char) : Nat → Rest → Rest
  | 0, cs => cs
  | _ + 1, [] => []
  | fuel + 1, c :: rest =>
    if c == '\\' then quotedInside quote fuel (rest.drop (escapeLength rest))
    else if c == quote || c.toNat == 0 || c.toNat == 0x1F then c :: rest
    else quotedInside quote fuel rest

/-- The characters before what is left. -/
def consumed (cs rest : Rest) : List Char := cs.take (cs.length - rest.length)

/-- A string between single or double quotes, quotes included. -/
def quotedString (cs : Rest) : Option Word :=
  match cs with
  | [] => none
  | quote :: inside =>
    if quote == '"' || quote == '\'' then
      (char quote (quotedInside quote (inside.length + 1) inside)).map fun rest =>
        (consumed cs rest, rest)
    else none

/-! ## Text over several lines -/

/-- Characters up to the end of the line or a backslash that continues it. -/
def content : Rest → Rest
  | [] => []
  | c :: rest =>
    if isLineEnd c || (continuation (c :: rest)).isSome then c :: rest else content rest

/-- Text that may be continued, with comment lines among its lines. -/
def breakable : Nat → Rest → Option Rest
  | 0, _ => none
  | fuel + 1, cs =>
    match commentLine cs with
    | some rest => some ((breakable fuel rest).getD rest)
    | none =>
      let rest := content cs
      if rest.length = cs.length then none
      else match (continuation rest).bind (breakable fuel) with
        | some left => some left
        | none => some rest

/-- Text that may be continued. -/
def breakableText (cs : Rest) : Option Rest := breakable (cs.length + 1) cs

/-! ## Arrays -/

/-- More strings of an array, a comma before each. -/
def arrayTail : Nat → List (List Char) → Rest → List (List Char) × Rest
  | 0, strings, cs => (strings, cs)
  | fuel + 1, strings, cs =>
    match (char ',' (gapMaybe cs)).bind fun rest => quotedString (gapMaybe rest) with
    | some (s, rest) => arrayTail fuel (s :: strings) rest
    | none => (strings, cs)

/-- Strings between brackets; a comma may stand behind the last. -/
def fullArray (cs : Rest) : Option (List (List Char) × Rest) := do
  let rest ← char '[' cs
  let (first, rest) ← quotedString (gapMaybe rest)
  let (strings, rest) := arrayTail rest.length [first] rest
  let rest := (char ',' rest).getD rest
  let rest ← char ']' (gapMaybe rest)
  some (strings.reverse, rest)

/-- An array of strings, which may be empty. -/
def stringArray (cs : Rest) : Option (List (List Char) × Rest) :=
  match fullArray cs with
  | some found => some found
  | none => do
    let rest ← char '[' cs
    let rest ← char ']' (gapMaybe rest)
    some ([], rest)

/-! ## Statements -/

/-- A word of a statement; in some the continued lines are joined before it is unquoted. -/
structure Field where
  text : List Char
  joinsLines : Bool := false

/-- An instruction: its keyword in capitals, its image if it starts a stage, and its words in
order. -/
structure Statement where
  keyword : String
  image : Option (List Char) := none
  fields : List Field := []

/-- A statement and what is left. -/
abbrev Parsed := Statement × Rest

/-- A flag, `--name=value`, behind a gap. -/
def flag (cs : Rest) : Option (Field × Rest) := do
  let rest ← gap cs
  let rest ← (char '-' rest).bind (char '-')
  let (_, rest) ← letters rest
  let (value, rest) ← (char '=' rest).bind word
  some (⟨value, false⟩, rest)

/-- Flags, as many as there are. -/
def flags : Nat → List Field → Rest → List Field × Rest
  | 0, done, cs => (done.reverse, cs)
  | fuel + 1, done, cs =>
    match flag cs with
    | some (f, rest) => flags fuel (f :: done) rest
    | none => (done.reverse, cs)

/-- A character of an image. -/
def isImageChar (c : Char) : Bool := c.isAlphanum || "_-.:/$\x7b\x7d@".toList.contains c

/-- The name that a stage is given. -/
def stageName (cs : Rest) : Option Rest := do
  let rest ← gap cs
  let rest ← keyword "AS" rest
  let rest ← gap rest
  let (_, rest) ← run (fun c => c.isAlphanum || c == '_' || c == '-') rest
  some rest

/-- The start of a stage. -/
def fromStatement (cs : Rest) : Option Parsed := do
  let rest ← keyword "FROM" cs
  let (fields, rest) := flags rest.length [] rest
  let rest ← gap rest
  let (image, rest) ← run isImageChar rest
  some (⟨"FROM", some image, fields⟩, (stageName rest).getD rest)

/-- An array of strings or text that may be continued. -/
def commandStatement (name : String) (cs : Rest) : Option Parsed := do
  let rest ← keyword name cs
  let rest ← gap rest
  match stringArray rest with
  | some (strings, rest) => some (⟨name, none, strings.map fun s => ⟨s, false⟩⟩, rest)
  | none => (breakableText rest).map fun rest => (⟨name, none, []⟩, rest)

/-- A quoted string, or else a word. -/
def valueField (joinsLines : Bool) (plain : Rest → Option Word) (cs : Rest) :
    Option (Field × Rest) :=
  match quotedString cs with
  | some (s, rest) => some (⟨s, joinsLines⟩, rest)
  | none => (plain cs).map fun (w, rest) => (⟨w, false⟩, rest)

/-- An argument of the build. -/
def argStatement (cs : Rest) : Option Parsed := do
  let rest ← keyword "ARG" cs
  let rest ← gap rest
  let (first, _) ← letters (rest.take 1)
  let name := first ++ (rest.drop 1).takeWhile fun c => c.isAlphanum || c == '_'
  let rest := rest.drop name.length
  match (char '=' rest).bind (valueField false word) with
  | some (value, rest) => some (⟨"ARG", none, [⟨name, false⟩, value]⟩, rest)
  | none => some (⟨"ARG", none, [⟨name, false⟩]⟩, rest)

/-- A label, `name=value`. -/
def labelPair (cs : Rest) : Option (List Field × Rest) := do
  let (name, rest) ← valueField true nameWord cs
  let rest ← char '=' rest
  let (value, rest) ← valueField true word rest
  some ([name, value], rest)

/-- A variable, `name=value`.  Only a quoted value is looked into. -/
def variablePair (cs : Rest) : Option (List Field × Rest) := do
  let (_, rest) ← run (fun c => c.isAlphanum || c == '_') cs
  let rest ← char '=' rest
  match quotedString rest with
  | some (s, rest) => some ([⟨s, false⟩], rest)
  | none => (word rest).map fun (_, rest) => ([], rest)

/-- Pairs, a gap before each, as many as there are; a gap may stand without one. -/
def pairs (pair : Rest → Option (List Field × Rest)) :
    Nat → List (List Field) → Rest → List Field × Rest
  | 0, done, cs => (done.reverse.flatten, cs)
  | fuel + 1, done, cs =>
    match gap cs with
    | none => (done.reverse.flatten, cs)
    | some rest =>
      match pair rest with
      | some (fields, rest) => pairs pair fuel (fields :: done) rest
      | none => pairs pair fuel done rest

/-- Pairs, or at least one gap. -/
def pairList (pair : Rest → Option (List Field × Rest)) (cs : Rest) : Option (List Field × Rest) :=
  if (gap cs).isSome then some (pairs pair cs.length [] cs) else none

/-- A label with its value behind a gap. -/
def singleLabel (cs : Rest) : Option (List Field × Rest) := do
  let rest ← gap cs
  let (name, rest) ← valueField true nameWord rest
  let rest ← gap rest
  let (value, rest) ← valueField true word rest
  some ([name, value], rest)

/-- Labels. -/
def labelStatement (cs : Rest) : Option Parsed := do
  let rest ← keyword "LABEL" cs
  let (fields, rest) ← singleLabel rest <|> pairList labelPair rest
  some (⟨"LABEL", none, fields⟩, rest)

/-- A variable with its value behind a gap. -/
def singleVariable (cs : Rest) : Option (List Field × Rest) := do
  let rest ← gap cs
  let (_, rest) ← run (fun c => c.isAlphanum || c == '_') rest
  let rest ← gap rest
  match quotedString rest with
  | some (s, rest) => some ([⟨s, false⟩], rest)
  | none => (breakableText rest).map fun rest => ([], rest)

/-- Variables of the environment. -/
def envStatement (cs : Rest) : Option Parsed := do
  let rest ← keyword "ENV" cs
  let (fields, rest) ← singleVariable rest <|> pairList variablePair rest
  some (⟨"ENV", none, fields⟩, rest)

/-- Paths, a gap before each, as many as there are. -/
def paths : Nat → List Field → Rest → List Field × Rest
  | 0, done, cs => (done.reverse, cs)
  | fuel + 1, done, cs =>
    match (gap cs).bind word with
    | some (path, rest) => paths fuel (⟨path, false⟩ :: done) rest
    | none => (done.reverse, cs)

/-- Sources and a destination. -/
def copyStatement (cs : Rest) : Option Parsed := do
  let rest ← keyword "COPY" cs
  let (flags, rest) := flags rest.length [] rest
  let (paths, rest) := paths rest.length [] rest
  if paths.length < 2 then none
  some (⟨"COPY", none, flags ++ paths⟩, rest)

/-- Any other instruction: letters, and text that may be continued. -/
def otherStatement (cs : Rest) : Option Parsed := do
  let (name, rest) ← letters cs
  let rest ← breakableText rest
  some (⟨String.ofList (name.map Text.asciiUpperChar), none, []⟩, rest)

/-- The first form of instruction that fits. -/
def statement (cs : Rest) : Option Parsed :=
  fromStatement cs <|> commandStatement "RUN" cs <|> argStatement cs <|> labelStatement cs <|>
    copyStatement cs <|> commandStatement "ENTRYPOINT" cs <|> commandStatement "CMD" cs <|>
    envStatement cs <|> otherStatement cs

end ImageRecipe.Dockerfile
