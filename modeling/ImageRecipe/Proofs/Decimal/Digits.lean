import ImageRecipe.Decimal.Notation

/-!
# The digits of natural numbers

What a reader of decimals relies on: there is a digit, there are only digits, the first one is
zero for zero alone, and each digit says its value.

* `isDigit_of_mem_naturalChars`, `naturalChars_ne_nil` : digits, at least one
* `length_of_leading_zero` : a leading zero stands alone
* `toNat_digitChar` : the value of a digit
-/

namespace ImageRecipe.Decimal

theorem isDigit_digitChar (n : Nat) : (digitChar n).isDigit = true := by
  have hdigits : ∀ d < 10, (Char.ofNat (48 + d)).isDigit = true := by decide
  exact hdigits (n % 10) (Nat.mod_lt n (by decide))

/-- A digit says its value above the code of zero. -/
theorem toNat_digitChar {n : Nat} (h : n < 10) : (digitChar n).toNat - 48 = n := by
  have hdigits : ∀ d < 10, (digitChar d).toNat - 48 = d := by decide
  exact hdigits n h

theorem isDigit_of_mem_naturalChars (n : Nat) : ∀ c ∈ naturalChars n, c.isDigit = true := by
  fun_induction naturalChars n with
  | case1 n _ =>
      intro c hc
      rw [List.mem_singleton.mp hc]
      exact isDigit_digitChar n
  | case2 n _ ih =>
      intro c hc
      rcases List.mem_append.mp hc with hc | hc
      · exact ih c hc
      · rw [List.mem_singleton.mp hc]
        exact isDigit_digitChar _

theorem naturalChars_ne_nil (n : Nat) : naturalChars n ≠ [] := by
  rw [naturalChars]
  split <;> simp

/-- The first digit is zero for zero alone. -/
theorem eq_zero_of_head?_naturalChars {n : Nat} (h : (naturalChars n).head? = some '0') :
    n = 0 := by
  fun_induction naturalChars n with
  | case1 n hn =>
      have hdigits : ∀ d < 10, digitChar d = '0' → d = 0 := by decide
      rw [List.head?_cons, Option.some.injEq] at h
      exact hdigits n hn h
  | case2 n hn ih =>
      -- the front digits are those of a number that is not zero
      obtain ⟨first, others, hdigits⟩ := List.exists_cons_of_ne_nil (naturalChars_ne_nil (n / 10))
      rw [hdigits, List.cons_append, List.head?_cons] at h
      have hzero : n / 10 = 0 := ih (by rw [hdigits, List.head?_cons, h])
      omega

/-- A leading zero is the only digit. -/
theorem length_of_leading_zero {n : Nat} (h : (naturalChars n).head? = some '0') :
    (naturalChars n).length = 1 := by
  rw [eq_zero_of_head?_naturalChars h, naturalChars, if_pos (by decide), List.length_singleton]

end ImageRecipe.Decimal
