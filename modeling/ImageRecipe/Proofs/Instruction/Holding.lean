import Mathlib.Data.List.Nodup
import Mathlib.Data.List.Range
import ImageRecipe.Proofs.Instruction.Definition
import ImageRecipe.Proofs.Value.Distinct

/-!
# Which checked constraints can hold

The check of a definition is there to refuse constraints that no argument of the shape satisfies.
What passes it and can hold all the same is told exactly: everything but the constraints that want
something to be given and leave it no shape but that of null, which never counts as given.

* `Shape.sample`, `Shape.withMembers` : arguments of a shape
* `Constraint.CanHold`, `Constraint.canHold_of_suits` : some argument of the shape is accepted
* `Constraint.WantsNull`, `Constraint.refuses_of_wantsNull` : no argument ever is
* `checked_constraint_holds` : the checked constraints, one or the other
-/

namespace ImageRecipe

/-! ## Arguments of a shape -/

namespace Shape

/-- An argument of the shape.  It counts as given, but for null. -/
def sample : Shape → Value
  | .null => .null
  | .string => .string "a"
  | .integer => .integer 1
  | .sequence => .sequence [.null]
  | .mapping => .mapping ⟨[("a", .null)]⟩

theorem shape?_sample (shape : Shape) : shape.sample.shape? = some shape := by
  cases shape <;> rfl

theorem distinct_sample (shape : Shape) : shape.sample.Distinct := by
  cases shape <;> simp [sample, Value.Distinct, Value.DistinctItems, Value.DistinctEntries]

theorem truthy_sample {shape : Shape} (h : shape ≠ .null) : shape.sample.truthy = true := by
  cases shape with
  | null => exact absurd rfl h
  | string => decide
  | integer => decide
  | sequence => rfl
  | mapping => rfl

theorem sample_ne_null {shape : Shape} (h : shape ≠ .null) : shape.sample ≠ .null := by
  cases shape with
  | null => exact absurd rfl h
  | string | integer | sequence | mapping => nofun

/-- Keys that differ in their length. -/
def growingKeys (count : Nat) : List String :=
  (List.range count).map fun n => String.ofList (List.replicate n 'a')

theorem nodup_growingKeys (count : Nat) : (growingKeys count).Nodup := by
  refine List.Nodup.map (fun n k hkeys => ?_) List.nodup_range
  simpa using congrArg String.length hkeys

/-- A collection of the shape with so many members, each of them null. -/
def withMembers (shape : Shape) (count : Nat) : Value :=
  match shape with
  | .mapping => .mapping ⟨(growingKeys count).map fun key => (key, .null)⟩
  | _ => .sequence (List.replicate count .null)

theorem distinctItems_replicate (count : Nat) :
    Value.DistinctItems (List.replicate count .null) := by
  induction count with
  | zero => trivial
  | succ count ih => exact ⟨trivial, ih⟩

theorem distinct_withMembers (shape : Shape) (count : Nat) :
    (shape.withMembers count).Distinct := by
  cases shape with
  | mapping =>
      unfold withMembers Value.Distinct
      refine ⟨?_, Value.distinctEntries_iff.mpr fun e he => ?_⟩
      · rw [List.map_map]
        simpa [Function.comp_def] using nodup_growingKeys count
      · obtain ⟨key, -, rfl⟩ := List.mem_map.mp he
        trivial
  | null | string | integer | sequence => exact distinctItems_replicate count

end Shape

namespace Constraint

variable {c : Constraint} {shape : Shape}

/-! ## Constraints that can hold -/

/-- Some argument of the shape is accepted, for whatever instruction it is given. -/
def CanHold (c : Constraint) (shape : Shape) : Prop :=
  ∃ v : Value, v.Distinct ∧ v.shape? = some shape ∧
    ∀ instruction usage captures, c.apply instruction usage v captures = .ok captures

/-- A key that is given is accepted if its value has one of the shapes. -/
theorem apply_requiredKey_of_given {instruction usage key : String} {shapes : List Shape}
    {m : Mapping Value} {found : Value} {captures : Option Captures}
    (hgiven : givenKey? m key = some found) (hfound : found.HasShape shapes) :
    (requiredKey key shapes).apply instruction usage (.mapping m) captures = .ok captures := by
  have hshapes := (checkShapes_iff instruction key).mpr hfound
  simp only [apply, mappingFor, bind, Except.bind, hgiven, hshapes]

theorem canHold_required {argument : String} (h : shape ≠ .null) :
    (required argument shape).CanHold shape :=
  ⟨shape.sample, shape.distinct_sample, shape.shape?_sample, fun _ _ _ =>
    apply_required.mpr ⟨shape.truthy_sample h, shape.shape?_sample, rfl⟩⟩

theorem canHold_requiredKey {key : String} {shapes : List Shape} {wanted : Shape}
    (hmem : wanted ∈ shapes) (hwanted : wanted ≠ .null) :
    (requiredKey key shapes).CanHold .mapping := by
  have hfound : (⟨[(key, wanted.sample)]⟩ : Mapping Value).get? key = some wanted.sample := by
    simp [Mapping.get?, Mapping.findEntry]
  refine ⟨.mapping ⟨[(key, wanted.sample)]⟩, ?_, rfl, fun _ _ _ => ?_⟩
  · simp [Value.Distinct, Value.DistinctEntries, wanted.distinct_sample]
  · exact apply_requiredKey_of_given
      (givenKey?_eq_some_iff.mpr ⟨hfound, Shape.sample_ne_null hwanted⟩)
      ⟨wanted, hmem, wanted.shape?_sample⟩

/-- A key that may be missing is missing from the empty mapping. -/
theorem canHold_optionalKey {key : String} {shapes : List Shape} {other : Option String} :
    (optionalKey key shapes other).CanHold .mapping :=
  ⟨.mapping .empty, ⟨List.nodup_nil, trivial⟩, rfl, fun _ _ _ => rfl⟩

theorem canHold_bounds {argument : String} {lower upper : Int64} (h : lower ≤ upper) :
    (bounds argument lower upper).CanHold .integer :=
  ⟨.integer lower, trivial, rfl, fun _ _ _ =>
    apply_bounds.mpr ⟨⟨Int64.le_refl lower, h⟩, rfl⟩⟩

theorem canHold_members {argument : String} {count : Nat} (h : shape.isCollection = true) :
    (members argument count).CanHold shape := by
  refine ⟨shape.withMembers count, shape.distinct_withMembers count, ?_, fun _ _ _ => ?_⟩
  · cases shape with
    | sequence | mapping => rfl
    | null | string | integer => cases h
  · cases shape with
    | sequence => simp [Shape.withMembers, apply]
    | mapping =>
        refine apply_members.mpr ⟨?_, rfl⟩
        simp [Mapping.size, Shape.growingKeys]
    | null | string | integer => cases h

/-! ## Constraints that never hold -/

/-- The constraint wants something to be given, and leaves it no shape but that of null. -/
def WantsNull : Constraint → Prop
  | .required _ wanted => wanted = .null
  | .requiredKey _ shapes => ∀ shape ∈ shapes, shape = .null
  | _ => False

/-- Null does not count as given, so that such a constraint accepts nothing. -/
theorem refuses_of_wantsNull (h : c.WantsNull) (instruction usage : String) (v : Value)
    (captures made : Option Captures) : c.apply instruction usage v captures ≠ .ok made := by
  intro haccepts
  cases c with
  | required argument wanted =>
      obtain rfl : wanted = .null := h
      obtain ⟨htruthy, hshape, -⟩ := apply_required.mp haccepts
      rw [Value.shape?_eq_null hshape] at htruthy
      cases htruthy
  | requiredKey key shapes =>
      obtain ⟨m, rfl⟩ := (of_apply haccepts).1
      simp only [apply, mappingFor, bind, Except.bind] at haccepts
      cases hgiven : givenKey? m key with
      | none =>
          rw [hgiven] at haccepts
          cases haccepts
      | some found =>
          simp only [hgiven] at haccepts
          cases hcheck : checkShapes instruction key shapes found with
          | error e => simp [hcheck] at haccepts
          | ok _ =>
              obtain ⟨shape, hmem, hshape⟩ := (checkShapes_iff instruction key).mp hcheck
              rw [h shape hmem] at hshape
              exact (givenKey?_eq_some_iff.mp hgiven).2 (Value.shape?_eq_null hshape)
  | optionalKey | bounds | pattern | members => exact h

/-- All others that suit a shape hold of some argument of it, patterns apart. -/
theorem canHold_of_suits (hsuits : c.Suits shape) (hpattern : c.isPattern = false)
    (hwants : ¬ c.WantsNull) : c.CanHold shape := by
  cases c with
  | required argument wanted =>
      obtain rfl : wanted = shape := hsuits
      exact canHold_required hwants
  | requiredKey key shapes =>
      obtain rfl : shape = .mapping := hsuits
      have hother : ∃ wanted ∈ shapes, wanted ≠ .null := by simpa [WantsNull] using hwants
      obtain ⟨wanted, hmem, hwanted⟩ := hother
      exact canHold_requiredKey hmem hwanted
  | optionalKey key shapes other =>
      obtain rfl : shape = .mapping := hsuits.1
      exact canHold_optionalKey
  | bounds argument lower upper =>
      obtain ⟨rfl, hbounds⟩ := hsuits
      exact canHold_bounds hbounds
  | pattern argument form => cases hpattern
  | members argument count => exact canHold_members hsuits

end Constraint

/-! ## The check of definitions -/

/-- A constraint, not a pattern, that passes the check of its definition for a shape holds of some
argument of that shape, or it is one that wants null to be given and holds of no argument at all. -/
theorem checked_constraint_holds {c : Constraint} {instruction : String} {shape : Shape}
    (hpattern : c.isPattern = false)
    (hcheck : c.checkDefinition instruction shape false = .ok ()) :
    (¬ c.WantsNull → c.CanHold shape) ∧
    (c.WantsNull → ∀ instruction usage v captures made,
      c.apply instruction usage v captures ≠ .ok made) := by
  have hsuits : c.Suits shape := by
    rw [← Constraint.fault?_eq_none_iff]
    rw [Constraint.checkDefinition] at hcheck
    cases hfault : c.fault? shape with
    | none => rfl
    | some fault => simp [hfault] at hcheck
  exact ⟨Constraint.canHold_of_suits hsuits hpattern, Constraint.refuses_of_wantsNull⟩

/-- A key that may be null or a string but has to be given is given as a string; the same key is
never given as null alone. -/
theorem checked_constraint_holds_image :
    (Constraint.requiredKey "image" [.null, .string]).CanHold .mapping ∧
      ∀ usage v captures made,
        (Constraint.requiredKey "image" [.null]).apply "FROM" usage v captures ≠ .ok made := by
  have heither : (Constraint.requiredKey "image" [.null, .string]).checkDefinition "FROM" .mapping
      false = .ok () := rfl
  have hneither : (Constraint.requiredKey "image" [.null]).checkDefinition "FROM" .mapping
      false = .ok () := rfl
  constructor
  · exact (checked_constraint_holds (by rfl) heither).1 (by simp [Constraint.WantsNull])
  · exact (checked_constraint_holds (by rfl) hneither).2 (by simp [Constraint.WantsNull]) "FROM"

/-- The check lets a constraint pass that wants its argument to be null and given at once. -/
theorem required_null_passes_check :
    ¬ ∀ (c : Constraint) (instruction : String) (shape : Shape), c.isPattern = false →
      c.checkDefinition instruction shape false = .ok () →
      ∃ v usage captures made, v.shape? = some shape ∧
        c.apply instruction usage v captures = .ok made := by
  intro hclaim
  obtain ⟨v, usage, captures, made, -, haccepts⟩ := hclaim (.required "x" .null) "TEST" .null rfl rfl
  exact Constraint.refuses_of_wantsNull (c := .required "x" .null) rfl "TEST" usage v captures made
    haccepts

end ImageRecipe
