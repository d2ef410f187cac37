import ImageRecipe.Json.Basic
import ImageRecipe.Decimal.Reader

/-!
# Reading JSON text

The strict grammar: no comments, no trailing commas, no leading zeros, no raw controls in strings
and no lone surrogates.  Arrays and objects nest at most `maxDepth` deep, and a member that is
given twice keeps its first place and its last value.

* `Json.readString`, `Json.readNumber` : the tokens that carry data
* `Json.readValue`, `Json.readItems`, `Json.readMembers` : the grammar
* `Json.parse` : a whole text
-/

namespace ImageRecipe.Json

/-- How deep arrays and objects may nest. -/
def maxDepth : Nat := 127

/-- The white space between tokens. -/
def isSpace (c : Char) : Bool := c == ' ' || c == '\n' || c == '\t' || c == '\r'

/-- What follows the white space. -/
def skipSpace (cs : List Char) : List Char := cs.dropWhile isSpace

/-! ## Strings -/

/-- The value of a digit in base sixteen. -/
def hexValue? (c : Char) : Option Nat :=
  if '0' ≤ c ∧ c ≤ '9' then some (c.toNat - 48)
  else if 'a' ≤ c ∧ c ≤ 'f' then some (c.toNat - 87)
  else if 'A' ≤ c ∧ c ≤ 'F' then some (c.toNat - 55)
  else none

/-- The value of four digits in base sixteen. -/
def hexFour? (a b c d : Char) : Option Nat := do
  let a ← hexValue? a
  let b ← hexValue? b
  let c ← hexValue? c
  let d ← hexValue? d
  some (((a * 16 + b) * 16 + c) * 16 + d)

/-- The character that a single letter after a backslash stands for. -/
def shortEscape? (c : Char) : Option Char :=
  if c = '"' then some '"'
  else if c = '\\' then some '\\'
  else if c = '/' then some '/'
  else if c = 'b' then some (Char.ofNat 0x08)
  else if c = 'f' then some (Char.ofNat 0x0C)
  else if c = 'n' then some '\n'
  else if c = 'r' then some '\r'
  else if c = 't' then some '\t'
  else none

/-- Puts a character in front of what was read. -/
def consChar (c : Char) (r : List Char × List Char) : List Char × List Char := (c :: r.1, r.2)

/-- The characters of a string after its opening quote, and what follows the closing one.  A code
point beyond sixteen bits is escaped as two halves. -/
def readString : List Char → Option (List Char × List Char)
  | [] => none
  | '"' :: rest => some ([], rest)
  | '\\' :: 'u' :: a :: b :: c :: d :: rest =>
    match hexFour? a b c d with
    | none => none
    | some n =>
      if n < 0xD800 ∨ 0xDFFF < n then (readString rest).map (consChar (Char.ofNat n))
      else match rest with
        | '\\' :: 'u' :: e :: f :: g :: h :: rest =>
          match hexFour? e f g h with
          | none => none
          | some low =>
            if n < 0xDC00 ∧ 0xDC00 ≤ low ∧ low ≤ 0xDFFF then
              (readString rest).map
                (consChar (Char.ofNat (0x10000 + (n - 0xD800) * 0x400 + (low - 0xDC00))))
            else none
        | _ => none
  | '\\' :: c :: rest =>
    match shortEscape? c with
    | some e => (readString rest).map (consChar e)
    | none => none
  | c :: rest => if c.toNat < 0x20 then none else (readString rest).map (consChar c)

/-! ## Numbers -/

/-- Takes digits into `significand` as long as it fits 64 bits. -/
def absorb (significand : Nat) : List Char → Nat × List Char
  | [] => (significand, [])
  | c :: rest =>
    let next := significand * 10 + (c.toNat - 48)
    if next < 18446744073709551616 then absorb next rest else (significand, c :: rest)

/-- `x * 10 ^ power`, rounded at each step: one multiplication or division by a power of ten that
is itself rounded, after as many divisions by `1e308` as a small power needs.  There is no result
when it would be infinite. -/
def scale (x : Float) (power : Int) : Option Float :=
  if 308 < power then if x == 0 then some x else none
  else if 0 ≤ power then
    let y := x * Float.ofScientific 1 false power.toNat
    if Decimal.isFinite y then some y else none
  else if -308 ≤ power then some (x / Float.ofScientific 1 false (-power).toNat)
  else if x == 0 then some x
  else scale (x / Float.ofScientific 1 false 308) (power + 308)
termination_by (-power).toNat

/-- The double for digits before and after a point and an exponent.  Only as many leading digits
count as fit 64 bits. -/
def realOf? (negative : Bool) (digits fraction : List Char) (exponent : Int) : Option Json := do
  let (leading, dropped) := absorb 0 digits
  let (significand, unread) := absorb leading fraction
  let point := (dropped.length : Int) - (fraction.length - unread.length : Nat)
  let x ← scale (Float.ofScientific significand false 0) (point + exponent)
  some (ofFloat (if negative then -x else x))

/-- The tree of a number without fraction and exponent.  Minus zero and what does not fit 64 bits
are doubles. -/
def wholeOf? (negative : Bool) (digits : List Char) : Option Json :=
  let (n, dropped) := absorb 0 digits
  if !dropped.isEmpty then realOf? negative digits [] 0
  else if !negative then some (ofNat n)
  else if h : 0 < n ∧ n ≤ 9223372036854775808 then some (.whole ⟨-(n : Int), by omega, by omega⟩)
  else some (ofFloat (-Float.ofScientific n false 0))

/-- The digits at the front and what follows them. -/
def spanDigits (cs : List Char) : List Char × List Char :=
  (cs.takeWhile Char.isDigit, cs.dropWhile Char.isDigit)

/-- The exponent part of a number, if there is one. -/
def readExponent : List Char → Option (Option Int × List Char)
  | c :: rest =>
    if c = 'e' ∨ c = 'E' then
      let (negative, rest) := Decimal.splitSign rest
      match spanDigits rest with
      | ([], _) => none
      | (ds, rest) =>
        let value : Int := Decimal.digitsValue ds
        some (some (if negative then -value else value), rest)
    else some (none, c :: rest)
  | [] => some (none, [])

/-- The fraction part of a number, if there is one. -/
def readFraction : List Char → Option (Option (List Char) × List Char)
  | '.' :: rest =>
    match spanDigits rest with
    | ([], _) => none
    | (ds, rest) => some (some ds, rest)
  | cs => some (none, cs)

/-- A number without its sign, and what follows it. -/
def readMagnitude (negative : Bool) (cs : List Char) : Option (Json × List Char) := do
  let (digits, rest) := spanDigits cs
  if digits.isEmpty || (digits.head? == some '0' && digits.length != 1) then none
  let (fraction, rest) ← readFraction rest
  let (exponent, rest) ← readExponent rest
  let j ← match fraction, exponent with
    | none, none => wholeOf? negative digits
    | _, _ => realOf? negative digits (fraction.getD []) (exponent.getD 0)
  some (j, rest)

/-- A number and what follows it. -/
def readNumber : List Char → Option (Json × List Char)
  | '-' :: rest => readMagnitude true rest
  | cs => readMagnitude false cs

/-! ## The grammar -/

mutual

/-- A tree and what follows it; `depth` is how much deeper arrays and objects may nest. -/
def readValue : Nat → Nat → List Char → Option (Json × List Char)
  | 0, _, _ => none
  | fuel + 1, depth, cs =>
    match skipSpace cs with
    | 'n' :: 'u' :: 'l' :: 'l' :: rest => some (.null, rest)
    | 't' :: 'r' :: 'u' :: 'e' :: rest => some (.bool true, rest)
    | 'f' :: 'a' :: 'l' :: 's' :: 'e' :: rest => some (.bool false, rest)
    | '"' :: rest => (readString rest).map fun (s, rest) => (.string (String.ofList s), rest)
    | '[' :: rest =>
      match depth with
      | 0 => none
      | depth + 1 =>
        match skipSpace rest with
        | ']' :: rest => some (.array [], rest)
        | rest => (readItems fuel depth rest).map fun (items, rest) => (.array items, rest)
    | '{' :: rest =>
      match depth with
      | 0 => none
      | depth + 1 =>
        match skipSpace rest with
        | '}' :: rest => some (.object .empty, rest)
        | rest =>
          (readMembers fuel depth rest).map fun (pairs, rest) => (.object (.ofList pairs), rest)
    | rest => readNumber rest

/-- The items of an array up to its closing bracket. -/
def readItems : Nat → Nat → List Char → Option (List Json × List Char)
  | 0, _, _ => none
  | fuel + 1, depth, cs =>
    match readValue fuel depth cs with
    | none => none
    | some (item, rest) =>
      match skipSpace rest with
      | ']' :: rest => some ([item], rest)
      | ',' :: rest => (readItems fuel depth rest).map fun (items, rest) => (item :: items, rest)
      | _ => none

/-- The members of an object up to its closing brace. -/
def readMembers : Nat → Nat → List Char → Option (List (String × Json) × List Char)
  | 0, _, _ => none
  | fuel + 1, depth, cs =>
    match skipSpace cs with
    | '"' :: rest =>
      match readString rest with
      | none => none
      | some (key, rest) =>
        match skipSpace rest with
        | ':' :: rest =>
          match readValue fuel depth rest with
          | none => none
          | some (value, rest) =>
            let member := (String.ofList key, value)
            match skipSpace rest with
            | '}' :: rest => some ([member], rest)
            | ',' :: rest =>
              (readMembers fuel depth rest).map fun (pairs, rest) => (member :: pairs, rest)
            | _ => none
        | _ => none
    | _ => none

end

/-- The tree of a whole text. -/
def parse (s : String) : Option Json :=
  let cs := s.toList
  match readValue (cs.length + 1) maxDepth cs with
  | some (j, rest) => if (skipSpace rest).isEmpty then some j else none
  | none => none

end ImageRecipe.Json
