import ImageRecipe.Text.LetterTables

/-!
# Letter case

Upper and lower case of a whole text.  A letter may have a form of several letters (`ß` becomes
`SS`), and a capital sigma at the end of a word becomes `ς`.  Names of instructions use
`asciiUpper`, which leaves every letter outside ASCII alone.
-/

namespace ImageRecipe.Text

/-! ## ASCII -/

/-- The capital of a letter from `a` to `z`; other characters stay. -/
def asciiUpperChar (c : Char) : Char :=
  if 'a' ≤ c ∧ c ≤ 'z' then Char.ofNat (c.toNat - 32) else c

/-- The text with the letters from `a` to `z` in capitals. -/
def asciiUpper (s : String) : String := String.ofList (s.toList.map asciiUpperChar)

/-! ## All letters -/

/-- The upper-case form of a character. -/
def upperChar (c : Char) : List Char :=
  if c.toNat < 0x80 then [asciiUpperChar c]
  else match upperSpecials.find? fun e => e.1 = c.toNat with
    | some e => e.2.map Char.ofNat
    | none => [Char.ofNat ((CaseRun.move? upperSteps c.toNat).getD c.toNat)]

/-- The lower-case form of a character that stands alone. -/
def lowerChar (c : Char) : List Char :=
  if 'A' ≤ c ∧ c ≤ 'Z' then [Char.ofNat (c.toNat + 32)]
  else if c.toNat < 0x80 then [c]
  else if c.toNat = 0x130 then ['i', Char.ofNat 0x307]
  else [Char.ofNat ((CaseRun.move? lowerSteps c.toNat).getD c.toNat)]

/-- The upper-case form of a text. -/
def upper (s : String) : String := String.ofList (s.toList.flatMap upperChar)

/-- The first character that is not ignorable has a case. -/
def meetsCased (cs : List Char) : Bool :=
  match cs.find? fun c => !inRanges ignorableRanges c.toNat with
  | some c => inRanges casedRanges c.toNat
  | none => false

/-- Lower-cases `cs`, which follows the reversed `before`. -/
def lowerFrom (before : List Char) : List Char → List Char
  | [] => []
  | c :: rest =>
    let here :=
      if c.toNat = 0x3A3 then
        [Char.ofNat (if meetsCased before && !meetsCased rest then 0x3C2 else 0x3C3)]
      else lowerChar c
    here ++ lowerFrom (c :: before) rest

/-- The lower-case form of a text. -/
def lower (s : String) : String := String.ofList (lowerFrom [] s.toList)

end ImageRecipe.Text
