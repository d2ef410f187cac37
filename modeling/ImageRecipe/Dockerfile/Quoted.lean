import ImageRecipe.Decimal.Reader
import ImageRecipe.Json.Reader

/-!
# Quoted words of a Dockerfile

A word that opens with a quote has to close with the same one, and its escapes have to be known.

* `UnquoteError` : what can be wrong
* `unescape` : the text inside the quotes
* `unquote` : a whole word
-/

namespace ImageRecipe.Dockerfile

/-- Why a quoted word cannot be read. -/
inductive UnquoteError where
  | notEnoughCharacters
  | unexpectedEnd
  | illegalCharacter
  | unrecognizedEscape
  | invalidUnicode
  deriving DecidableEq, Repr

/-- The name of each cause in messages. -/
def UnquoteError.message : UnquoteError → String
  | .notEnoughCharacters => "NotEnoughChars"
  | .unexpectedEnd => "UnexpectedEOF"
  | .illegalCharacter => "IllegalChar"
  | .unrecognizedEscape => "UnrecognizedEscape"
  | .invalidUnicode => "InvalidUnicode"

/-- The characters that can open a quoted word. -/
def isQuote (c : Char) : Bool := c == '"' || c == '\'' || c == Char.ofNat 0x60

/-- The number that digits of a base spell; a plus sign may stand before them. -/
def codeIn? (base : Nat) (digits : List Char) : Option Nat :=
  let digits := match digits with
    | '+' :: rest => rest
    | digits => digits
  if digits.isEmpty then none
  else digits.foldl (fun n c => do
    let n ← n
    let d ← Json.hexValue? c
    if d < base then some (n * base + d) else none) (some 0)

/-- The character that a letter after a backslash stands for by itself. -/
def plainEscape? (c : Char) : Option Char :=
  if c == '\\' || isQuote c then some c
  else if c == 'a' then some (Char.ofNat 0x07)
  else if c == 'b' then some (Char.ofNat 0x08)
  else if c == 'f' then some (Char.ofNat 0x0C)
  else if c == 'n' then some '\n'
  else if c == 'r' then some '\r'
  else if c == 't' then some '\t'
  else if c == 'v' then some (Char.ofNat 0x0B)
  else none

/-- A byte as a character, from the digits of a base. -/
def byteEscape (base : Nat) (digits : List Char) : Except UnquoteError Char :=
  match codeIn? base digits with
  | some n => if n < 0x100 then .ok (Char.ofNat n) else .error .unrecognizedEscape
  | none => .error .unrecognizedEscape

/-- A code point as a character, from digits in base sixteen. -/
def codePointEscape (digits : List Char) : Except UnquoteError Char :=
  match codeIn? 16 digits with
  | none => .error .unrecognizedEscape
  | some n =>
    if 0xFFFFFFFF < n then .error .unrecognizedEscape
    else if n < 0xD800 ∨ (0xDFFF < n ∧ n ≤ 0x10FFFF) then .ok (Char.ofNat n)
    else .error .invalidUnicode

/-- The first `n` characters, none of which may be missing. -/
def digitsOf (n : Nat) (cs : List Char) : Except UnquoteError (List Char) :=
  if n ≤ cs.length then .ok (cs.take n) else .error .unrecognizedEscape

/-- The character of an escape, from what follows the backslash, and how much of that it takes. -/
def escape (rest : List Char) : Except UnquoteError (Char × Nat) :=
  match rest with
  | [] => .error .unexpectedEnd
  | c :: digits =>
    match plainEscape? c with
    | some ch => .ok (ch, 1)
    | none =>
      if c.isDigit then ((digitsOf 3 (c :: digits)).bind (byteEscape 8)).map (·, 3)
      else if c == 'x' then ((digitsOf 2 digits).bind (byteEscape 16)).map (·, 3)
      else if c == 'u' then ((digitsOf 4 digits).bind codePointEscape).map (·, 5)
      else if c == 'U' then ((digitsOf 8 digits).bind codePointEscape).map (·, 9)
      else .error .unrecognizedEscape

/-- The text inside the quotes, which may hold the quote only behind a backslash. -/
def unescape (quote : Char) : Nat → List Char → Except UnquoteError (List Char)
  | 0, _ => .ok []
  | _ + 1, [] => .ok []
  | fuel + 1, c :: rest =>
    if c == quote then .error .illegalCharacter
    else if c == '\\' then
      match escape rest with
      | .error e => .error e
      | .ok (ch, width) => (unescape quote fuel (rest.drop width)).map (ch :: ·)
    else (unescape quote fuel rest).map (c :: ·)

/-- The text of a word; one that opens with a quote is read as quoted. -/
def unquote (word : List Char) : Except UnquoteError (List Char) :=
  match word with
  | [] => .ok []
  | quote :: rest =>
    if !isQuote quote then .ok word
    else match rest.getLast? with
      | none => .error .notEnoughCharacters
      | some last =>
        if last == quote then unescape quote (rest.length + 1) rest.dropLast
        else .error .unexpectedEnd

end ImageRecipe.Dockerfile
