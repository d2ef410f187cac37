import ImageRecipe.Yaml.Cursor
import ImageRecipe.Json.Reader

/-!
# Scalars in a YAML text

The four ways to write a text: plain, between single or double quotes, and as a block.

* `Gap` : blanks and line ends between two parts of a scalar, and what they become
* `scanPlain`, `scanQuoted`, `scanBlock` : the text of a scalar and the place behind it
-/

namespace ImageRecipe.Yaml

/-! ## Gaps -/

/-- What was skipped between two parts of a scalar: blanks, or line ends if there were any. -/
structure Gap where
  blanks : List Char := []
  firstBreak : List Char := []
  moreBreaks : List Char := []
  broken : Bool := false

/-- A single line end becomes a space, of several the first is dropped. -/
def Gap.text (gap : Gap) : List Char :=
  if !gap.broken then gap.blanks
  else if gap.firstBreak == ['\n'] then
    if gap.moreBreaks.isEmpty then [' '] else gap.moreBreaks
  else gap.firstBreak ++ gap.moreBreaks

/-- Skips blanks and line ends.  Where lines must be indented, a tab may not stand before
`indent`. -/
def skipGap (indent : Option Int) : Nat → Gap → Cursor → Except Problem (Gap × Cursor)
  | 0, gap, c => .ok (gap, c)
  | fuel + 1, gap, c =>
    match c.rest with
    | [] => .ok (gap, c)
    | ch :: _ =>
      if isSpaceOrTab ch then
        let abuses := match indent with
          | some indent => gap.broken && (c.column : Int) < indent && ch == '\t'
          | none => false
        if abuses then .error .tabIndentation
        else
          let gap := if gap.broken then gap else { gap with blanks := gap.blanks ++ [ch] }
          skipGap indent fuel gap (c.advance 1)
      else if isBreak ch then
        let (kept, c) := c.takeBreak
        let gap :=
          if gap.broken then { gap with moreBreaks := gap.moreBreaks ++ kept }
          else { blanks := [], firstBreak := kept, moreBreaks := [], broken := true }
        skipGap indent fuel gap c
      else .ok (gap, c)

/-! ## Plain scalars -/

/-- The characters that end a plain scalar inside brackets. -/
def isFlowMark (c : Char) : Bool := c == ',' || c == '[' || c == ']' || c == '{' || c == '}'

/-- The part of a plain scalar up to the next blank, line end or mark. -/
def plainPart (inFlow : Bool) : List Char → Except Problem (List Char)
  | [] => .ok []
  | c :: rest =>
    if isGap c then .ok []
    else if c == ':' then
      match rest with
      | [] => .ok []
      | next :: _ =>
        if inFlow && (isFlowMark next || next == '?') then .error .misplacedColon
        else if isGap next then .ok []
        else (plainPart inFlow rest).map (c :: ·)
    else if inFlow && isFlowMark c then .ok []
    else (plainPart inFlow rest).map (c :: ·)

/-- A scalar's text, the place behind it, and whether a line end was passed after its last part. -/
structure Scanned where
  text : List Char
  cursor : Cursor
  broken : Bool := false

/-- The scalar of the parts so far, which stand in reverse order. -/
def scannedParts (done : List (List Char)) (gap : Gap) (c : Cursor) : Scanned :=
  ⟨done.reverse.flatten, c, gap.broken⟩

/-- A plain scalar, part by part; `done` holds the parts so far. -/
def plainFrom (inFlow : Bool) (indent : Int) :
    Nat → List (List Char) → Gap → Cursor → Except Problem Scanned
  | 0, _, _, _ => .error .outOfFuel
  | fuel + 1, done, gap, c => do
    if c.atDocumentMark || c.sees '#' then return scannedParts done gap c
    let part ← plainPart inFlow c.rest
    let (done, gap) := if part.isEmpty then (done, gap) else (part :: gap.text :: done, {})
    let c := c.advance part.length
    if !(c.peek?.map isGap).getD false then return scannedParts done gap c
    let (gap, c) ← skipGap (some indent) (c.rest.length + 1) gap c
    if !inFlow && (c.column : Int) < indent then return scannedParts done gap c
    plainFrom inFlow indent fuel done gap c

/-- A plain scalar.  Outside brackets its lines are indented at least by `indent`. -/
def scanPlain (inFlow : Bool) (indent : Int) (c : Cursor) : Except Problem Scanned :=
  plainFrom inFlow indent (c.rest.length + 2) [] {} c

/-! ## Quoted scalars -/

/-- What one part of a quoted scalar holds, how many characters it takes, and whether a backslash
at the end of the line follows it. -/
structure QuotedPart where
  text : List Char
  length : Nat
  escapedBreak : Bool

/-- The part with a character in front that takes `width` characters. -/
def QuotedPart.cons (ch : Char) (width : Nat) (part : QuotedPart) : QuotedPart :=
  { part with text := ch :: part.text, length := part.length + width }

/-- The part between single quotes up to the next blank, line end or quote. -/
def singlePart : List Char → QuotedPart
  | [] => ⟨[], 0, false⟩
  | '\'' :: '\'' :: rest => (singlePart rest).cons '\'' 2
  | c :: rest => if isGap c || c == '\'' then ⟨[], 0, false⟩ else (singlePart rest).cons c 1

/-- The character that a single letter after a backslash stands for. -/
def shortEscape? (c : Char) : Option Char :=
  if c == '0' then some (Char.ofNat 0)
  else if c == 'a' then some (Char.ofNat 0x07)
  else if c == 'b' then some (Char.ofNat 0x08)
  else if c == 't' || c == '\t' then some '\t'
  else if c == 'n' then some '\n'
  else if c == 'v' then some (Char.ofNat 0x0B)
  else if c == 'f' then some (Char.ofNat 0x0C)
  else if c == 'r' then some '\r'
  else if c == 'e' then some (Char.ofNat 0x1B)
  else if c == ' ' then some ' '
  else if c == '"' then some '"'
  else if c == '/' then some '/'
  else if c == '\\' then some '\\'
  else if c == 'N' then some (Char.ofNat 0x85)
  else if c == '_' then some (Char.ofNat 0xA0)
  else if c == 'L' then some (Char.ofNat 0x2028)
  else if c == 'P' then some (Char.ofNat 0x2029)
  else none

/-- How many digits in base sixteen follow a letter after a backslash. -/
def escapeWidth? (c : Char) : Option Nat :=
  if c == 'x' then some 2
  else if c == 'u' then some 4
  else if c == 'U' then some 8
  else none

/-- The number that exactly `count` digits in base sixteen spell. -/
def hexNumber? : Nat → List Char → Nat → Option Nat
  | 0, _, value => some value
  | _ + 1, [], _ => none
  | count + 1, c :: rest, value =>
    match Json.hexValue? c with
    | some digit => hexNumber? count rest (value * 16 + digit)
    | none => none

/-- The character after a backslash and the number of characters it takes, backslash included. -/
def escape? (rest : List Char) : Option (Char × Nat) :=
  match rest with
  | [] => none
  | c :: digits =>
    match shortEscape? c with
    | some ch => some (ch, 2)
    | none =>
      match escapeWidth? c with
      | none => none
      | some width =>
        match hexNumber? width digits 0 with
        | none => none
        | some n =>
          if (0xD800 ≤ n ∧ n ≤ 0xDFFF) ∨ 0x10FFFF < n then none
          else some (Char.ofNat n, width + 2)

/-- The part between double quotes up to the next blank, line end or quote. -/
def doublePart : Nat → List Char → Except Problem QuotedPart
  | 0, _ => .error .outOfFuel
  | _ + 1, [] => .ok ⟨[], 0, false⟩
  | fuel + 1, c :: rest =>
    if isGap c || c == '"' then .ok ⟨[], 0, false⟩
    else if c == '\\' then
      if (rest.head?.map isBreak).getD false then .ok ⟨[], 1, true⟩
      else match escape? rest with
        | none => .error .badEscape
        | some (ch, width) =>
          (doublePart fuel ((c :: rest).drop width)).map (QuotedPart.cons ch width)
    else (doublePart fuel rest).map (QuotedPart.cons c 1)

/-- A quoted scalar after its opening quote, part by part. -/
def quotedFrom (double : Bool) : Nat → List (List Char) → Cursor → Except Problem Scanned
  | 0, _, _ => .error .outOfFuel
  | fuel + 1, done, c => do
    if c.atDocumentMark then throw .documentMarkInQuotes
    if c.rest.isEmpty then throw .unclosedQuote
    let part ← if double then doublePart (c.rest.length + 1) c.rest else pure (singlePart c.rest)
    let done := part.text :: done
    let c := c.advance part.length
    let (gap, c) : Gap × Cursor :=
      if part.escapedBreak then ({ broken := true }, c.skipBreak) else ({}, c)
    if c.sees (if double then '"' else '\'') then
      return ⟨done.reverse.flatten, c.advance 1, false⟩
    let (gap, c) ← skipGap none (c.rest.length + 1) gap c
    quotedFrom double fuel (gap.text :: done) c

/-- A scalar that opens with a quote. -/
def scanQuoted (double : Bool) (c : Cursor) : Except Problem Scanned :=
  quotedFrom double (c.rest.length + 2) [] (c.advance 1)

/-! ## Block scalars -/

/-- What becomes of the line ends behind the last line of a block. -/
inductive Chomping where
  | strip
  | clip
  | keep
  deriving DecidableEq

/-- What stands behind the mark of a block scalar. -/
structure BlockHeader where
  chomping : Chomping := .clip
  increment : Option Nat := none

/-- A sign for chomping. -/
def chomping? (c : Char) : Option Chomping :=
  if c == '+' then some .keep else if c == '-' then some .strip else none

/-- The header of a block scalar: a sign and a digit, in either order, neither needed. -/
def blockHeader (c : Cursor) : Except Problem (BlockHeader × Cursor) :=
  let digit := fun (header : BlockHeader) (c : Cursor) =>
    match c.peek? with
    | some ch =>
      if ch == '0' then .error .badBlockHeader
      else if ch.isDigit then
        .ok ({ header with increment := some (ch.toNat - 48) }, c.advance 1)
      else .ok (header, c)
    | none => .ok (header, c)
  match c.peek?.bind chomping? with
  | some chomping => digit { chomping := chomping } (c.advance 1)
  | none => do
    let (header, c) ← digit {} c
    match header.increment, c.peek?.bind chomping? with
    | some _, some chomping => .ok ({ header with chomping := chomping }, c.advance 1)
    | _, _ => .ok (header, c)

/-- Skips indentation and empty lines of a block.  Without a known indent, that of the deepest
line is found on the way: `deepest` is the greatest column so far. -/
def blockBreaks (indent : Option Nat) :
    Nat → Nat → List Char → Cursor → Except Problem (List Char × Nat × Cursor)
  | 0, _, _, _ => .error .outOfFuel
  | fuel + 1, deepest, breaks, c =>
    let room := match indent with
      | some indent => indent - c.column
      | none => c.rest.length
    let c := c.advance ((c.rest.take room).takeWhile (· == ' ')).length
    let deepest := max deepest c.column
    let inside := match indent with
      | some indent => decide (c.column < indent)
      | none => true
    if inside && c.sees '\t' then .error .tabIndentation
    else if (c.peek?.map isBreak).getD false then
      let (kept, c) := c.takeBreak
      blockBreaks indent fuel deepest (breaks ++ kept) c
    else .ok (breaks, deepest, c)

/-- The lines of a block: `lead` is the line end behind the last line, `breaks` are those of the
empty lines after it. -/
def blockLines (literal : Bool) (indent : Nat) :
    Nat → List (List Char) → List Char → List Char → Bool → Cursor →
      Except Problem (List (List Char) × List Char × List Char × Cursor)
  | 0, _, _, _, _, _ => .error .outOfFuel
  | fuel + 1, done, lead, breaks, leadingBlank, c => do
    if c.column != indent || c.rest.isEmpty then return (done, lead, breaks, c)
    let blank := (c.peek?.map isSpaceOrTab).getD false
    let folds := !literal && lead == ['\n'] && !leadingBlank && !blank
    let before := if folds then (if breaks.isEmpty then [' '] else []) else lead
    let line := c.rest.takeWhile fun ch => !isBreak ch
    let (lead, c) := (c.advance line.length).takeBreak
    let (following, _, c) ← blockBreaks (some indent) (c.rest.length + 1) 0 [] c
    blockLines literal indent fuel (line :: breaks :: before :: done) lead following blank c

/-- A block scalar; `parent` is the indent of the collection it stands in. -/
def scanBlock (literal : Bool) (parent : Int) (c : Cursor) : Except Problem Scanned := do
  let (header, c) ← blockHeader (c.advance 1)
  let c := c.skipComment
  if !c.atLineEnd then throw .badBlockHeader
  let c := c.skipBreak
  let known := header.increment.map fun n => (max parent 0).toNat + n
  let (breaks, deepest, c) ← blockBreaks known (c.rest.length + 1) 0 [] c
  let indent := known.getD (max (max deepest (parent + 1).toNat) 1)
  let (done, lead, breaks, c) ←
    blockLines literal indent (c.rest.length + 1) [] [] breaks false c
  let tail := match header.chomping with
    | .strip => []
    | .clip => lead
    | .keep => lead ++ breaks
  return ⟨done.reverse.flatten ++ tail, c, false⟩

end ImageRecipe.Yaml
