import ImageRecipe.Json.Printer
import ImageRecipe.Proofs.Decimal.Notation

/-!
# The characters of JSON text

Control characters are escaped inside strings and occur nowhere else, so that a JSON text has none
and is one line.

* `Json.isShown` : what is not a control character
* `Json.all_chars` : the texts of all trees
* `Json.chars_ne_nil` : none of them is empty
-/

namespace ImageRecipe.Json

/-- The character is not one of the controls in front of the space. -/
def isShown (c : Char) : Bool := decide (0x20 ≤ c.toNat)

theorem all_isShown_of_number {cs : List Char} (h : cs.all Decimal.isNumberChar = true) :
    cs.all isShown = true := by
  rw [List.all_eq_true] at h ⊢
  intro c hc
  have hvisible := Decimal.le_toNat_of_isNumberChar (h c hc)
  simp only [isShown, decide_eq_true_eq]
  omega

/-! ## Strings -/

theorem isShown_hexDigit (n : Nat) : isShown (Text.hexDigit n) = true := by
  have hdigits : ∀ d < 16, isShown
      (if d < 10 then Char.ofNat (48 + d) else Char.ofNat (87 + d)) = true := by decide
  exact hdigits (n % 16) (Nat.mod_lt n (by decide))

theorem all_escapedChar (c : Char) : (escapedChar c).all isShown = true := by
  unfold escapedChar
  -- seven characters have an escape of their own
  iterate 7
    split
    · decide
  split
  · have hbackslash : isShown '\\' = true := by decide
    have hletter : isShown 'u' = true := by decide
    have hzero : isShown '0' = true := by decide
    simp only [List.all_cons, hbackslash, hletter, hzero, isShown_hexDigit, List.all_nil,
      Bool.and_self]
  · rename_i hcontrol
    simp [isShown, Nat.not_lt.mp hcontrol]

theorem all_stringChars (s : String) : (stringChars s).all isShown = true := by
  have hquote : isShown '"' = true := by decide
  have hinside : (s.toList.flatMap escapedChar).all isShown = true := by
    rw [List.all_flatMap]
    exact List.all_eq_true.mpr fun c _ => all_escapedChar c
  simp only [stringChars, List.all_cons, List.all_append, hquote, hinside, List.all_nil,
    Bool.and_self]

/-! ## Trees -/

mutual

/-- There are no control characters in the text of a tree. -/
theorem all_chars (j : Json) : j.chars.all isShown = true := by
  cases j with
  | null => decide
  | bool b => cases b <;> decide
  | whole n => exact all_isShown_of_number (Decimal.all_integerChars n.value)
  | real x => exact all_isShown_of_number (Decimal.all_scientific_chars x.value)
  | string s => exact all_stringChars s
  | array items =>
      have hopen : isShown '[' = true := by decide
      have hclose : isShown ']' = true := by decide
      simp only [chars, List.all_cons, List.all_append, hopen, hclose, all_itemsChars items,
        List.all_nil, Bool.and_self]
  | object members =>
      obtain ⟨entries⟩ := members
      have hopen : isShown '{' = true := by decide
      have hclose : isShown '}' = true := by decide
      simp only [chars, List.all_cons, List.all_append, hopen, hclose, all_entriesChars entries,
        List.all_nil, Bool.and_self]

theorem all_itemsChars (items : List Json) : (itemsChars items).all isShown = true := by
  have hcomma : isShown ',' = true := by decide
  match items with
  | [] => rfl
  | [item] => exact all_chars item
  | item :: next :: rest =>
      simp only [itemsChars, List.all_append, List.all_cons, hcomma, all_chars item,
        all_itemsChars (next :: rest), Bool.and_self]

theorem all_entriesChars (entries : List (String × Json)) :
    (entriesChars entries).all isShown = true := by
  have hcomma : isShown ',' = true := by decide
  have hcolon : isShown ':' = true := by decide
  match entries with
  | [] => rfl
  | [(key, value)] =>
      simp only [entriesChars, List.all_append, List.all_cons, all_stringChars, hcolon,
        all_chars value, Bool.and_self]
  | (key, value) :: next :: rest =>
      simp only [entriesChars, List.all_append, List.all_cons, all_stringChars, hcolon, hcomma,
        all_chars value, all_entriesChars (next :: rest), Bool.and_self]

end

/-- No tree is written as nothing. -/
theorem chars_ne_nil (j : Json) : j.chars ≠ [] := by
  cases j with
  | bool b => cases b <;> simp [chars]
  | whole n =>
      rw [chars]
      exact Decimal.integerChars_ne_nil n.value
  | real x =>
      rw [chars]
      exact Decimal.Style.chars_ne_nil (by decide) (by decide) x.value
  | null | string | array | object => simp [chars, stringChars]

end ImageRecipe.Json
