import ImageRecipe.Instruction.Handler

/-!
# What constraints let through

When a constraint accepts an argument, constraint by constraint, in terms of the argument alone.
Only a pattern adds to the captures; the others pass on those that were made before.

* `Mapping.Requires`, `Mapping.Allows`, `Mapping.Excludes` : conditions on one key of a mapping
* `Constraint.apply_required`, … : when each constraint accepts
* `Constraint.applyAll_cons_iff` : when a list of them does
-/

namespace ImageRecipe

/-! ## Conditions on values -/

/-- The value has one of the shapes. -/
def Value.HasShape (shapes : List Shape) (v : Value) : Prop :=
  ∃ shape ∈ shapes, v.shape? = some shape

/-- Sequences and mappings. -/
def Value.isCollection : Value → Bool
  | .sequence _ | .mapping _ => true
  | _ => false

/-- Whatever is not a collection is a scalar. -/
theorem Value.scalarText?_isSome (v : Value) : v.scalarText?.isSome = !v.isCollection := by
  cases v <;> rfl

theorem Value.shape?_eq_string {v : Value} (h : v.shape? = some .string) : ∃ s, v = .string s := by
  cases v <;> simp_all [Value.shape?]

theorem Value.shape?_eq_integer {v : Value} (h : v.shape? = some .integer) :
    ∃ n, v = .integer n := by
  cases v <;> simp_all [Value.shape?]

theorem Value.shape?_eq_sequence {v : Value} (h : v.shape? = some .sequence) :
    ∃ items, v = .sequence items := by
  cases v <;> simp_all [Value.shape?]

theorem Value.shape?_eq_mapping {v : Value} (h : v.shape? = some .mapping) :
    ∃ m, v = .mapping m := by
  cases v <;> simp_all [Value.shape?]

theorem Value.shape?_eq_null {v : Value} (h : v.shape? = some .null) : v = .null := by
  cases v <;> simp_all [Value.shape?]

namespace Mapping

variable {m : Mapping Value} {key other : String} {shapes : List Shape}

/-- There is a value of one of the shapes under the key. -/
def Requires (m : Mapping Value) (key : String) (shapes : List Shape) : Prop :=
  ∃ v, m.get? key = some v ∧ v.HasShape shapes

/-- A value under the key is null or has one of the shapes. -/
def Allows (m : Mapping Value) (key : String) (shapes : List Shape) : Prop :=
  ∀ v, m.get? key = some v → v = .null ∨ v.HasShape shapes

/-- If there is a value under the key that is not null, then there is nothing under the other. -/
def Excludes (m : Mapping Value) (key other : String) : Prop :=
  ∀ v, m.get? key = some v → v = .null ∨ m.contains other = false

end Mapping

namespace Constraint

variable {instruction usage : String} {v : Value} {captures made : Option Captures}

/-! ## One constraint -/

theorem apply_required {argument : String} {shape : Shape} :
    (required argument shape).apply instruction usage v captures = .ok made ↔
      v.truthy = true ∧ v.shape? = some shape ∧ made = captures := by
  simp only [apply]
  cases htruthy : v.truthy with
  | false => simp
  | true =>
      by_cases hshape : v.shape? = some shape
      · simp [hshape, eq_comm]
      · simp [hshape]

theorem checkShapes_iff (instruction key : String) {shapes : List Shape} :
    checkShapes instruction key shapes v = .ok () ↔ v.HasShape shapes := by
  simp only [checkShapes, Value.HasShape]
  cases hshape : v.shape? with
  | none => simp
  | some shape =>
      by_cases hmem : shape ∈ shapes
      · simp [hmem]
      · simp [hmem]

/-- A key is given if it has a value other than null. -/
theorem givenKey?_eq_some_iff {m : Mapping Value} {key : String} :
    givenKey? m key = some v ↔ m.get? key = some v ∧ v ≠ .null := by
  simp only [givenKey?]
  split
  · rename_i hnull
    rw [hnull]
    constructor
    · intro h
      cases h
    · rintro ⟨h, hne⟩
      exact absurd (Option.some.inj h).symm hne
  · rename_i hnull
    constructor
    · rintro h
      exact ⟨h, fun hv => hnull (hv ▸ h)⟩
    · exact fun h => h.1

theorem givenKey?_eq_none_iff {m : Mapping Value} {key : String} :
    givenKey? m key = none ↔ ∀ v, m.get? key = some v → v = .null := by
  rw [Option.eq_none_iff_forall_ne_some]
  simp only [ne_eq, givenKey?_eq_some_iff, not_and, Classical.not_not]

/-- The null shape is asked of no key, so that null never passes as a required value. -/
theorem apply_requiredKey {m : Mapping Value} {key : String} {shapes : List Shape}
    (hnull : Shape.null ∉ shapes) :
    (requiredKey key shapes).apply instruction usage (.mapping m) captures = .ok made ↔
      m.Requires key shapes ∧ made = captures := by
  simp only [apply, mappingFor, bind, Except.bind]
  cases hgiven : givenKey? m key with
  | none =>
      simp only [reduceCtorEq, false_iff, not_and]
      rintro ⟨found, hfound, shape, hshape, hfs⟩
      rw [givenKey?_eq_none_iff.mp hgiven found hfound] at hfs
      cases hfs
      exact absurd hshape hnull
  | some found =>
      obtain ⟨hfound, -⟩ := givenKey?_eq_some_iff.mp hgiven
      have hrequires : m.Requires key shapes ↔ found.HasShape shapes := by
        simp [Mapping.Requires, hfound]
      rw [hrequires, ← checkShapes_iff instruction key]
      cases hcheck : checkShapes instruction key shapes found with
      | error e => simp [hcheck]
      | ok u => simp [hcheck, eq_comm]

theorem apply_optionalKey {m : Mapping Value} {key : String} {shapes : List Shape}
    {exclusiveWith : Option String} :
    (optionalKey key shapes exclusiveWith).apply instruction usage (.mapping m) captures =
        .ok made ↔
      m.Allows key shapes ∧ (∀ other, exclusiveWith = some other → m.Excludes key other) ∧
        made = captures := by
  simp only [apply, mappingFor, bind, Except.bind]
  cases hgiven : givenKey? m key with
  | none =>
      have hnull := givenKey?_eq_none_iff.mp hgiven
      have hallows : m.Allows key shapes := fun v hv => .inl (hnull v hv)
      have hexcludes : ∀ other, m.Excludes key other := fun other v hv => .inl (hnull v hv)
      simp [hallows, hexcludes, eq_comm]
  | some found =>
      obtain ⟨hfound, hne⟩ := givenKey?_eq_some_iff.mp hgiven
      have hallows : m.Allows key shapes ↔ found.HasShape shapes := by
        simp [Mapping.Allows, hfound, hne]
      have hexcludes : ∀ other, m.Excludes key other ↔ m.contains other = false := by
        simp [Mapping.Excludes, hfound, hne]
      rw [hallows, ← checkShapes_iff instruction key]
      cases hcheck : checkShapes instruction key shapes found with
      | error e => simp [hcheck]
      | ok u =>
          cases exclusiveWith with
          | none => simp [hcheck, eq_comm]
          | some other =>
              cases hother : m.contains other with
              | true => simp [hcheck, hexcludes, hother]
              | false => simpa [hcheck, hexcludes, hother] using eq_comm

theorem apply_bounds {argument : String} {lower upper n : Int64} :
    (bounds argument lower upper).apply instruction usage (.integer n) captures = .ok made ↔
      (lower ≤ n ∧ n ≤ upper) ∧ made = captures := by
  simp only [apply]
  by_cases hout : n < lower ∨ upper < n
  · have hnot : ¬ (lower ≤ n ∧ n ≤ upper) := by
      rintro ⟨hlower, hupper⟩
      rcases hout with hout | hout
      · exact Int64.not_lt.mpr hlower hout
      · exact Int64.not_lt.mpr hupper hout
    simp [hout, hnot]
  · rw [not_or, Int64.not_lt, Int64.not_lt] at hout
    have hin : ¬ (n < lower ∨ upper < n) := by
      rw [not_or, Int64.not_lt, Int64.not_lt]
      exact hout
    simp [hin, hout, eq_comm]

theorem apply_pattern {argument s : String} {form : Pattern} :
    (pattern argument form).apply instruction usage (.string s) captures = .ok made ↔
      ∃ groups, form.match? s = some groups ∧ made = some groups := by
  simp only [apply]
  cases form.match? s with
  | none => simp
  | some groups => simp [eq_comm]

theorem apply_members {argument : String} {count : Nat} {m : Mapping Value} :
    (members argument count).apply instruction usage (.mapping m) captures = .ok made ↔
      m.size = count ∧ made = captures := by
  simp only [apply]
  by_cases hsize : m.size = count
  · simp [hsize, eq_comm]
  · simp [hsize]

/-! ## Lists of constraints -/

theorem applyAll_nil_iff :
    applyAll instruction usage v captures [] = .ok made ↔ made = captures := by
  simp [applyAll, eq_comm]

/-- The first constraint accepts, and so do the others with its captures. -/
theorem applyAll_cons_iff {c : Constraint} {rest : List Constraint} :
    applyAll instruction usage v captures (c :: rest) = .ok made ↔
      ∃ between, c.apply instruction usage v captures = .ok between ∧
        applyAll instruction usage v between rest = .ok made := by
  simp only [applyAll]
  cases c.apply instruction usage v captures with
  | error e => simp
  | ok between => simp

end Constraint

end ImageRecipe
