import ImageRecipe.Decimal.Reader
import ImageRecipe.Json.Basic
import ImageRecipe.Text.Occurrence

/-!
# Pointers

A pointer is a text that leads from a JSON tree to a part of it: names with points between them.
Between quotes a point belongs to the name, and behind a backslash every mark does.  The end of a
name is found by counting characters and cut off by counting bytes; the two agree in ASCII.

* `Pointer.scan` : the first name of a pointer, and what is ahead of it
* `Pointer.names` : all names
* `Json.descend`, `Json.at?` : the part of a tree that names, or a pointer, lead to
-/

namespace ImageRecipe

namespace Template.Pointer

/-! ## Cutting by bytes -/

/-- The text without its first `n` bytes, unless a character lies across the cut. -/
def dropBytes : List Char → Nat → Option (List Char)
  | cs, 0 => some cs
  | [], _ => none
  | c :: cs, n => if c.utf8Size ≤ n then dropBytes cs (n - c.utf8Size) else none

/-- The first `n` bytes of a text, unless a character lies across the cut. -/
def takeBytes : List Char → Nat → Option (List Char)
  | _, 0 => some []
  | [], _ => none
  | c :: cs, n =>
    if c.utf8Size ≤ n then (takeBytes cs (n - c.utf8Size)).map (c :: ·) else none

/-- The two parts of a cut make up the text. -/
theorem takeBytes_append_dropBytes {cs front back : List Char} {n : Nat}
    (hf : takeBytes cs n = some front) (hb : dropBytes cs n = some back) : front ++ back = cs := by
  induction cs generalizing n front back with
  | nil =>
    cases n with
    | zero => simp_all [takeBytes, dropBytes]
    | succ n => simp [takeBytes] at hf
  | cons c cs ih =>
    cases n with
    | zero => simp_all [takeBytes, dropBytes]
    | succ n =>
      simp only [takeBytes, dropBytes] at hf hb
      split at hf
      · rename_i h
        obtain ⟨rest, hr, rfl⟩ := Option.map_eq_some_iff.1 hf
        rw [if_pos h] at hb
        simp [ih hr hb]
      · simp at hf

/-! ## Names -/

/-- What is ahead in a pointer, and which quotes are open in front of it. -/
structure Ahead where
  chars : List Char
  inDouble : Bool
  inSingle : Bool
  deriving DecidableEq, Repr

/-- The name between two places, and what is behind the mark that ends it: nothing, if a character
lies across that place. -/
def Ahead.cut (a : Ahead) (start stop : Nat) : Option (List Char × Ahead) :=
  ((takeBytes a.chars stop).bind (dropBytes · start)).map fun name =>
    (name, { a with chars := (dropBytes a.chars (stop + 1)).getD [] })

/-- The first name ahead.  The characters of the list are looked at one by one: `passed` have been
seen, and the name starts behind the `start` marks at its front.  A mark that is `escaped` is a
character of the name. -/
def scan (a : Ahead) (start passed : Nat) (escaped : Bool) :
    List Char → Option (List Char × Ahead)
  | [] =>
    match dropBytes a.chars start with
    | none | some [] => none
    | some name => some (name, { a with chars := [] })
  | c :: rest =>
    let isFree := !escaped && !a.inDouble && !a.inSingle
    let isMark := if c = '.' then isFree else (c = '"' || c = '\'') && !escaped
    let a : Ahead :=
      if c = '"' && !escaped then { a with inDouble := !a.inDouble }
      else if c = '\'' && !escaped then { a with inSingle := !a.inSingle }
      else a
    if isMark then
      if passed = start then scan a (start + 1) (passed + 1) false rest
      else a.cut start passed
    else if c = '[' && isFree then
      if passed = start then
        match dropBytes a.chars (passed + 1) with
        | none => none
        | some left => scan { a with chars := left } start (passed + 1) false rest
      else a.cut start passed
    else if c = ']' && isFree then scan a (start + 1) (passed + 1) false rest
    else scan a start (passed + 1) (c == '\\') rest

/-- The names of what is ahead; there are not more than `bound`. -/
def namesUpTo : Nat → Ahead → List (List Char)
  | 0, _ => []
  | bound + 1, a =>
    match scan a 0 0 false a.chars with
    | none => []
    | some (name, a) => name :: namesUpTo bound a

/-- A key as it stands in a pointer: a slash is `~1` and a tilde is `~0`. -/
def unescaped (key : String) : String :=
  Text.replaceText (Text.replaceText key "~1" "/") "~0" "~"

/-- The names of a pointer, in order; each is at least one byte long. -/
def names (pointer : String) : List String :=
  (namesUpTo pointer.utf8ByteSize ⟨pointer.toList, false, false⟩).map fun name =>
    unescaped (String.ofList name)

/-- The place in an array that a name tells: digits without leading zeros. -/
def place? (name : String) : Option Nat :=
  match name.toList with
  | [] => none
  | '0' :: _ :: _ => none
  | digits => if digits.all Char.isDigit then some (Decimal.digitsValue digits) else none

end Template.Pointer

namespace Json

/-- The part of a tree that names lead to, entries by their keys and items by their places. -/
def descend : Json → List String → Option Json
  | j, [] => some j
  | .object members, name :: rest =>
    match members.get? name with
    | some member => descend member rest
    | none => none
  | .array items, name :: rest =>
    match (Template.Pointer.place? name).bind (items[·]?) with
    | some item => descend item rest
    | none => none
  | _, _ :: _ => none

/-- The part of a tree that a pointer leads to. -/
def at? (j : Json) (pointer : String) : Option Json := j.descend (Template.Pointer.names pointer)

end Json

end ImageRecipe
