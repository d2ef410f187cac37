import ImageRecipe.Value

/-!
# Which values equal themselves

Floats are compared as numbers, and NaN is no number.  A value in which NaN occurs, at whatever
depth, differs even from itself; all others equal themselves.

* `Value.NumbersOnly` : NaN does not occur
* `Value.equals_self_iff` : that is when a value equals itself
-/

namespace ImageRecipe.Value

mutual

/-- NaN does not occur in a value. -/
def NumbersOnly : Value → Prop
  | .float x => x.isNaN = false
  | .sequence items => NumbersOnlyItems items
  | .mapping ⟨entries⟩ => NumbersOnlyEntries entries
  | _ => True

/-- So it is in each item. -/
def NumbersOnlyItems : List Value → Prop
  | [] => True
  | item :: rest => item.NumbersOnly ∧ NumbersOnlyItems rest

/-- So it is in the value of each entry. -/
def NumbersOnlyEntries : List (String × Value) → Prop
  | [] => True
  | (_, value) :: rest => value.NumbersOnly ∧ NumbersOnlyEntries rest

end

open Float.Model (UnpackedFloat) in
/-- A double equals itself unless it is NaN. -/
theorem float_beq_self_iff (x : Float) : (x == x) = true ↔ x.isNaN = false := by
  have hbeq : (x == x) = x.toModel.unpack.beq x.toModel.unpack := rfl
  have hnan : x.isNaN = x.toModel.unpack.isNaN := rfl
  rw [hbeq, hnan]
  cases x.toModel.unpack with
  | notANumber => decide
  | zero sign => cases sign <;> decide
  | infinity sign => cases sign <;> decide
  | finite sign mantissa exponent positive =>
      -- two finite doubles of one sign are compared by exponent and then by mantissa
      have hcompare : (compare exponent exponent).then (compare mantissa mantissa) = .eq := by
        rw [Std.ReflOrd.compare_self, Std.ReflOrd.compare_self]
        rfl
      have hequal : (UnpackedFloat.finite sign mantissa exponent positive).beq
          (.finite sign mantissa exponent positive) = true := by
        cases sign with
        | negative => exact congrArg (fun order => some order.swap == some Ordering.eq) hcompare
        | positive => exact congrArg (fun order => some order == some Ordering.eq) hcompare
      exact iff_of_true hequal rfl

mutual

theorem equals_self_iff (v : Value) : v.equals v = true ↔ v.NumbersOnly := by
  cases v with
  | null => simp [equals, NumbersOnly]
  | bool b => simp [equals, NumbersOnly]
  | integer n => simp [equals, NumbersOnly]
  | float x => rw [equals, NumbersOnly, float_beq_self_iff]
  | string s => simp [equals, NumbersOnly]
  | sequence items => rw [equals, NumbersOnly, equalsItems_self_iff items]
  | mapping m =>
      obtain ⟨entries⟩ := m
      rw [equals, NumbersOnly, equalsEntries_self_iff entries]

theorem equalsItems_self_iff (items : List Value) :
    equalsItems items items = true ↔ NumbersOnlyItems items := by
  cases items with
  | nil => simp [equalsItems, NumbersOnlyItems]
  | cons item rest =>
      rw [equalsItems, NumbersOnlyItems, Bool.and_eq_true, equals_self_iff item,
        equalsItems_self_iff rest]

theorem equalsEntries_self_iff (entries : List (String × Value)) :
    equalsEntries entries entries = true ↔ NumbersOnlyEntries entries := by
  cases entries with
  | nil => simp [equalsEntries, NumbersOnlyEntries]
  | cons e rest =>
      obtain ⟨key, value⟩ := e
      rw [equalsEntries, NumbersOnlyEntries, Bool.and_eq_true, Bool.and_eq_true,
        equals_self_iff value, equalsEntries_self_iff rest]
      simp

end

end ImageRecipe.Value
