/-!
# Whole numbers of 64 bits

The whole numbers that data notations can hold: signed or unsigned, as long as 64 bits suffice.
A document keeps only the signed ones.
-/

namespace ImageRecipe

/-- A whole number that fits 64 bits, with or without a sign. -/
structure Whole where
  value : Int
  least : -9223372036854775808 ≤ value := by omega
  most : value < 18446744073709551616 := by omega
  deriving DecidableEq

namespace Whole

theorem ext {a b : Whole} (h : a.value = b.value) : a = b := by
  cases a; cases b; cases h; rfl

/-- An integer as a whole number, if 64 bits suffice. -/
def ofInt? (n : Int) : Option Whole :=
  if h : -9223372036854775808 ≤ n ∧ n < 18446744073709551616 then some ⟨n, h.1, h.2⟩ else none

/-- A signed integer as a whole number. -/
def ofInt64 (n : Int64) : Whole :=
  ⟨n.toInt, Int64.le_toInt n, Int.lt_trans (Int64.toInt_lt n) (by decide)⟩

/-- The signed integer, if 64 bits suffice for the number and its sign. -/
def toInt64? (n : Whole) : Option Int64 :=
  if n.value < 9223372036854775808 then some (Int64.ofInt n.value) else none

theorem toInt64?_ofInt64 (n : Int64) : (ofInt64 n).toInt64? = some n := by
  have h : n.toInt < 9223372036854775808 := Int64.toInt_lt n
  simp [toInt64?, ofInt64, h]

/-- A whole number has no signed form exactly when it lies above the signed range. -/
theorem toInt64?_eq_none_iff {n : Whole} : n.toInt64? = none ↔ 9223372036854775808 ≤ n.value := by
  simp only [toInt64?]
  split <;> simp <;> omega

end Whole

end ImageRecipe
