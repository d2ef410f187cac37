import ImageRecipe.Text.Letters
import Mathlib.Data.List.Forall2

/-!
# Names in capitals

Capitals of names forget the case of the twenty-six ASCII letters and nothing else: every other
character, a letter outside ASCII with a case of its own included, stays what it is.

* `SameLetter`, `SameButCase` : what may differ, said by the alphabet
* `asciiUpper_eq_iff` : texts with the same capitals
* `asciiUpper_asciiUpper` : capitals stay as they are
-/

namespace ImageRecipe.Text

/-- The letters that have a capital, each with it. -/
def asciiLetters : List (Char × Char) :=
  "abcdefghijklmnopqrstuvwxyz".toList.zip "ABCDEFGHIJKLMNOPQRSTUVWXYZ".toList

/-- The characters are the same, or one of them is the capital of the other. -/
def SameLetter (c d : Char) : Prop :=
  c = d ∨ (c, d) ∈ asciiLetters ∨ (d, c) ∈ asciiLetters

/-- The texts differ at most in the case of ASCII letters. -/
def SameButCase (s t : String) : Prop := List.Forall₂ SameLetter s.toList t.toList

/-! ## Characters -/

theorem asciiUpperChar_of_mem : ∀ letter ∈ asciiLetters,
    asciiUpperChar letter.1 = letter.2 ∧ asciiUpperChar letter.2 = letter.2 := by
  decide

/-- Two letters with one capital are one letter. -/
theorem eq_of_capital : ∀ letter ∈ asciiLetters, ∀ other ∈ asciiLetters,
    letter.2 = other.2 → letter.1 = other.1 := by
  decide +kernel

/-- A character is a letter with its capital behind it, or stays as it is. -/
theorem mem_asciiLetters_or_eq (c : Char) :
    (c, asciiUpperChar c) ∈ asciiLetters ∨ asciiUpperChar c = c := by
  by_cases hc : 'a' ≤ c ∧ c ≤ 'z'
  · left
    have hall : ∀ place < 26,
        (Char.ofNat (97 + place), asciiUpperChar (Char.ofNat (97 + place))) ∈ asciiLetters := by
      decide
    have hlower : 97 ≤ c.toNat := UInt32.le_iff_toNat_le.mp hc.1
    have hupper : c.toNat ≤ 122 := UInt32.le_iff_toNat_le.mp hc.2
    have hplace := hall (c.toNat - 97) (by omega)
    rwa [Nat.add_sub_cancel' hlower, Char.ofNat_toNat] at hplace
  · exact .inr (if_neg hc)

theorem asciiUpperChar_asciiUpperChar (c : Char) :
    asciiUpperChar (asciiUpperChar c) = asciiUpperChar c := by
  rcases mem_asciiLetters_or_eq c with hmem | heq
  · exact (asciiUpperChar_of_mem _ hmem).2
  · exact congrArg asciiUpperChar heq

/-- Characters that have the same capital are the same but for their case. -/
theorem asciiUpperChar_eq_iff {c d : Char} :
    asciiUpperChar c = asciiUpperChar d ↔ SameLetter c d := by
  constructor
  · intro h
    rcases mem_asciiLetters_or_eq c with hc | hc <;> rcases mem_asciiLetters_or_eq d with hd | hd
    · exact .inl (eq_of_capital _ hc _ hd h)
    · rw [h, hd] at hc
      exact .inr (.inl hc)
    · rw [← h, hc] at hd
      exact .inr (.inr hd)
    · rw [hc, hd] at h
      exact .inl h
  · rintro (rfl | h | h)
    · rfl
    · obtain ⟨hfirst, hsecond⟩ := asciiUpperChar_of_mem _ h
      exact hfirst.trans hsecond.symm
    · obtain ⟨hfirst, hsecond⟩ := asciiUpperChar_of_mem _ h
      exact hsecond.trans hfirst.symm

/-! ## Texts -/

/-- Texts have the same capitals if they differ at most in the case of ASCII letters. -/
theorem asciiUpper_eq_iff {s t : String} : asciiUpper s = asciiUpper t ↔ SameButCase s t := by
  have hletters : (fun c d => asciiUpperChar c = asciiUpperChar d) = SameLetter :=
    funext₂ fun _ _ => propext asciiUpperChar_eq_iff
  rw [asciiUpper, asciiUpper, String.ofList_inj, ← List.forall₂_eq_eq_eq,
    List.forall₂_map_left_iff, List.forall₂_map_right_iff, hletters, SameButCase]

/-- Capitals are their own capitals. -/
@[simp] theorem asciiUpper_asciiUpper (s : String) : asciiUpper (asciiUpper s) = asciiUpper s := by
  simp only [asciiUpper, String.toList_ofList, List.map_map]
  exact congrArg String.ofList (List.map_congr_left fun c _ => asciiUpperChar_asciiUpperChar c)

end ImageRecipe.Text
