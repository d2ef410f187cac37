import ImageRecipe.Decimal.Notation
import ImageRecipe.Proofs.Decimal.Digits

/-!
# The characters of numbers

Letters, digits, signs and points are all that a number is written with, whatever the notation, and
it is written with one of them at least.

* `isNumberChar` : these characters, all of them visible
* `all_integerChars`, `Style.all_chars` : whole numbers and doubles
* `integerChars_ne_nil`, `Style.chars_ne_nil` : no number is written as nothing
-/

namespace ImageRecipe.Decimal

/-- A letter, a digit, a sign or a point. -/
def isNumberChar (c : Char) : Bool :=
  ('a' ≤ c && c ≤ 'z') || ('A' ≤ c && c ≤ 'Z') || ('0' ≤ c && c ≤ '9') ||
    c == '-' || c == '+' || c == '.'

/-- Number characters are visible. -/
theorem le_toNat_of_isNumberChar {c : Char} (h : isNumberChar c = true) : 0x2B ≤ c.toNat := by
  have hfrom : ∀ first : Char, first ≤ c → first.toNat ≤ c.toNat :=
    fun _ hle => UInt32.le_iff_toNat_le.mp hle
  simp only [isNumberChar, Bool.or_eq_true, Bool.and_eq_true, decide_eq_true_eq, beq_iff_eq] at h
  rcases h with ((((h | h) | h) | rfl) | rfl) | rfl
  · exact Nat.le_trans (by decide) (hfrom 'a' h.1)
  · exact Nat.le_trans (by decide) (hfrom 'A' h.1)
  · exact Nat.le_trans (by decide) (hfrom '0' h.1)
  · decide
  · decide
  · decide

/-! ## Whole numbers -/

theorem isNumberChar_digitChar (n : Nat) : isNumberChar (digitChar n) = true := by
  have hdigits : ∀ d < 10, isNumberChar (Char.ofNat (48 + d)) = true := by decide
  exact hdigits (n % 10) (Nat.mod_lt n (by decide))

theorem all_naturalChars (n : Nat) : (naturalChars n).all isNumberChar = true := by
  fun_induction naturalChars n with
  | case1 n _ => simp [isNumberChar_digitChar]
  | case2 n _ ih =>
      simp only [List.all_append, ih, List.all_cons, isNumberChar_digitChar, List.all_nil,
        Bool.and_self]

theorem all_integerChars (n : Int) : (integerChars n).all isNumberChar = true := by
  cases n with
  | ofNat n => exact all_naturalChars n
  | negSucc n =>
      have hminus : isNumberChar '-' = true := by decide
      simp only [integerChars, List.all_cons, hminus, all_naturalChars, Bool.and_self]

/-! ## Doubles -/

variable {digits suffix sign : List Char}

theorem all_zeros (count : Nat) : (List.replicate count '0').all isNumberChar = true := by
  rw [List.all_eq_true]
  intro c hc
  rw [List.eq_of_mem_replicate hc]
  decide

theorem all_positionalChars (hsuffix : suffix.all isNumberChar = true)
    (hdigits : digits.all isNumberChar = true) (point : Int) :
    (positionalChars suffix digits point).all isNumberChar = true := by
  have hzero : isNumberChar '0' = true := by decide
  have hpoint : isNumberChar '.' = true := by decide
  have hparts := hdigits
  rw [← List.take_append_drop point.toNat digits, List.all_append, Bool.and_eq_true] at hparts
  unfold positionalChars
  split
  · simp only [List.all_cons, List.all_append, hzero, hpoint, all_zeros, hdigits, Bool.and_self]
  · split
    · simp only [List.all_append, hdigits, all_zeros, hsuffix, Bool.and_self]
    · simp only [List.all_append, List.all_cons, hparts.1, hpoint, hparts.2, Bool.and_self]

theorem all_exponentChars (hsign : sign.all isNumberChar = true)
    (hdigits : digits.all isNumberChar = true) (leading : Int) :
    (exponentChars sign digits leading).all isNumberChar = true := by
  have hpoint : isNumberChar '.' = true := by decide
  have hletter : isNumberChar 'e' = true := by decide
  have hbefore : (if leading < 0 then [] else sign).all isNumberChar = true := by
    split
    · rfl
    · exact hsign
  have hexponent : ('e' :: ((if leading < 0 then [] else sign) ++ integerChars leading)).all
      isNumberChar = true := by
    simp only [List.all_cons, List.all_append, hletter, hbefore, all_integerChars, Bool.and_self]
  cases digits with
  | nil => exact hexponent
  | cons first others =>
      cases others with
      | nil => exact List.all_append.trans (by rw [hdigits, hexponent]; rfl)
      | cons second rest =>
          simp only [List.all_cons, Bool.and_eq_true] at hdigits
          have hfraction : (first :: '.' :: second :: rest).all isNumberChar = true := by
            simp only [List.all_cons, hdigits, hpoint, Bool.and_self]
          exact List.all_append.trans (by rw [hfraction, hexponent]; rfl)

/-- What the style writes beside digits. -/
def Style.ownChars (style : Style) : List Char :=
  style.wholeSuffix.toList ++ (style.exponentSign ++ (style.nan.toList ++ style.infinity.toList))

/-- If the style's own characters are those of numbers, it writes no others. -/
theorem Style.all_chars {style : Style} (h : style.ownChars.all isNumberChar = true) (x : Float) :
    (style.chars x).all isNumberChar = true := by
  simp only [ownChars, List.all_append, Bool.and_eq_true] at h
  obtain ⟨hsuffix, hsign, hnan, hinfinity⟩ := h
  have hminus : isNumberChar '-' = true := by decide
  have hzero : isNumberChar '0' = true := by decide
  have hsigned : ∀ (negative : Bool) (cs : List Char), cs.all isNumberChar = true →
      (if negative then '-' :: cs else cs).all isNumberChar = true := by
    intro negative cs hcs
    cases negative with
    | true => simp only [if_true, List.all_cons, hminus, hcs, Bool.and_self]
    | false => exact hcs
  unfold chars
  split
  · exact hnan
  · exact hsigned _ _ hinfinity
  · exact hsigned _ _ (by rw [List.all_cons, hzero, hsuffix, Bool.and_self])
  · refine hsigned _ _ ?_
    split
    · exact all_positionalChars hsuffix (all_naturalChars _) _
    · split
      · exact all_positionalChars hsuffix (all_naturalChars _) _
      · exact all_exponentChars hsign (all_naturalChars _) _

theorem all_plain_chars (x : Float) : (plain.chars x).all isNumberChar = true :=
  Style.all_chars (by decide) x

theorem all_scientific_chars (x : Float) : (scientific.chars x).all isNumberChar = true :=
  Style.all_chars (by decide) x

/-! ## Numbers are written with something -/

theorem integerChars_ne_nil (n : Int) : integerChars n ≠ [] := by
  cases n with
  | ofNat n => exact naturalChars_ne_nil n
  | negSucc n => exact List.cons_ne_nil _ _

theorem positionalChars_ne_nil (h : digits ≠ []) (point : Int) :
    positionalChars suffix digits point ≠ [] := by
  unfold positionalChars
  split
  · exact List.cons_ne_nil _ _
  · split
    · simp [h]
    · simp

theorem exponentChars_ne_nil (leading : Int) : exponentChars sign digits leading ≠ [] := by
  simp [exponentChars]

/-- If the style has words for what is no number, it has a text for every double. -/
theorem Style.chars_ne_nil {style : Style} (hnan : style.nan ≠ "") (hinfinity : style.infinity ≠ "")
    (x : Float) : style.chars x ≠ [] := by
  have hsigned : ∀ (negative : Bool) (cs : List Char), cs ≠ [] →
      (if negative then '-' :: cs else cs) ≠ [] := by
    intro negative cs hcs
    cases negative with
    | true => exact List.cons_ne_nil _ _
    | false => exact hcs
  unfold chars
  split
  · exact fun hnil => hnan (String.toList_eq_nil_iff.mp hnil)
  · exact hsigned _ _ fun hnil => hinfinity (String.toList_eq_nil_iff.mp hnil)
  · exact hsigned _ _ (List.cons_ne_nil _ _)
  · refine hsigned _ _ ?_
    split
    · exact positionalChars_ne_nil (naturalChars_ne_nil _) _
    · split
      · exact positionalChars_ne_nil (naturalChars_ne_nil _) _
      · exact exponentChars_ne_nil _

end ImageRecipe.Decimal
