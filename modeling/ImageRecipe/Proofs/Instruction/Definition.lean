import ImageRecipe.Instruction.Line
import ImageRecipe.Proofs.Instruction.Constraint
import ImageRecipe.Proofs.Mapping

/-!
# What a checked definition guarantees

The check of a handler's definition and the constraints on its argument are two functions.  They
fit together: behind a definition that passed, no constraint meets an argument that it cannot read
as a whole, and a body that reads captures finds them; and a constraint that is refused for a shape
lets no argument of that shape through, but for a key that excludes itself and is not given.

* `Constraint.CanRead` : the argument as a whole is of the kind at which the constraint looks
* `Constraint.Refusal`, `Constraint.refusal_of_apply` : all errors of a constraint, and of a list
* `Constraint.Suits`, `Handler.checkDefinition_eq_ok_iff` : which definitions pass
* `Constraint.eq_optionalKey_of_not_suits` : what a refused constraint would let through
* `Handler.Guarded`, `Handler.guarded_of_checkDefinition` : what holds behind a checked definition
-/

namespace ImageRecipe

/-- The argument that an error is about, if it is about one. -/
def InstructionError.argument? : InstructionError → Option String
  | .argumentMissing _ a _ | .argumentType _ a _ _ | .argumentsExclusive _ a _
  | .outOfBounds _ a _ _ _ | .patternMismatch _ a _ _ | .wrongLength _ a _ _ => some a
  | .noShape _ _ | .notNestable _ _ | .noHandler _ _ | .malformed _ | .definition _ _ => none

namespace Constraint

/-! ## Reading the argument -/

/-- The argument or key that the constraint is about. -/
def argument : Constraint → String
  | .required a _ | .requiredKey a _ | .optionalKey a _ _ | .bounds a _ _ | .pattern a _
  | .members a _ => a

/-- The constraint wants its argument or key to be given. -/
def asks : Constraint → Bool
  | .required _ _ | .requiredKey _ _ => true
  | _ => false

/-- The constraint wants the value of a key to have one of the shapes. -/
def ChecksKey (c : Constraint) (key : String) (shapes : List Shape) : Prop :=
  c = .requiredKey key shapes ∨ ∃ other, c = .optionalKey key shapes other

/-- The argument as a whole is of the kind at which the constraint looks. -/
def CanRead (c : Constraint) (v : Value) : Prop :=
  match c with
  | .required _ shape => v.shape? = some shape
  | .requiredKey _ _ | .optionalKey _ _ _ => ∃ m, v = .mapping m
  | .bounds _ _ _ => ∃ n, v = .integer n
  | .pattern _ _ => ∃ s, v = .string s
  | .members _ _ => v.isCollection = true

/-- Why a constraint does not accept an argument.  The first reason is the only one that blames the
kind of the whole argument. -/
inductive Refusal (c : Constraint) (instruction usage : String) (v : Value) :
    InstructionError → Prop where
  | wrongKind {expected : String} : ¬ c.CanRead v →
      Refusal c instruction usage v (.argumentType instruction c.argument expected v.kind)
  | missing : c.asks = true →
      Refusal c instruction usage v (.argumentMissing instruction c.argument usage)
  | keyMismatch {key : String} {shapes : List Shape} {m : Mapping Value} {found : Value}
      {e : InstructionError} : c.ChecksKey key shapes → v = .mapping m →
      givenKey? m key = some found → checkShapes instruction key shapes found = .error e →
      Refusal c instruction usage v e
  | exclusive {key other : String} {shapes : List Shape} :
      c = .optionalKey key shapes (some other) →
      Refusal c instruction usage v (.argumentsExclusive instruction key other)
  | outOfBounds {argument : String} {lower upper n : Int64} : c = .bounds argument lower upper →
      Refusal c instruction usage v (.outOfBounds instruction argument n lower upper)
  | noMatch {argument s : String} {form : Pattern} : c = .pattern argument form →
      Refusal c instruction usage v (.patternMismatch instruction argument s form.source)
  | wrongLength {argument : String} {count received : Nat} : c = .members argument count →
      Refusal c instruction usage v (.wrongLength instruction argument count received)

variable {c : Constraint} {instruction usage : String} {v : Value} {captures made : Option Captures}
  {e : InstructionError}

theorem checkShapes_error {key : String} {shapes : List Shape} {found : Value}
    (h : checkShapes instruction key shapes found = .error e) :
    e = .argumentType instruction key (Layout.joinWith " or " (shapes.map Shape.text))
      found.kind := by
  simp only [checkShapes] at h
  split at h
  · split at h
    · cases h
    · exact (Except.error.inj h).symm
  · exact (Except.error.inj h).symm

/-- A mapping is found, or the argument is none. -/
theorem mappingFor_cases (instruction key : String) (v : Value) :
    (∃ m, v = .mapping m ∧ mappingFor instruction key v = .ok m) ∨
      (¬ (∃ m, v = .mapping m) ∧
        mappingFor instruction key v =
          .error (.argumentType instruction key Shape.mapping.text v.kind)) := by
  cases v with
  | mapping m => exact .inl ⟨m, rfl, rfl⟩
  | _ => exact .inr ⟨(by rintro ⟨_, h⟩; cases h), rfl⟩

/-! ## Reasons

Each kind of constraint has reasons of its own for which it does not accept an argument. -/

theorem refusal_of_required {argument : String} {shape : Shape}
    (h : (required argument shape).apply instruction usage v captures = .error e) :
    (required argument shape).Refusal instruction usage v e := by
  simp only [apply] at h
  split at h
  · cases h
    exact .missing rfl
  · split at h
    · cases h
    · cases h
      rename_i hshape
      exact .wrongKind hshape

theorem refusal_of_requiredKey {key : String} {shapes : List Shape}
    (h : (requiredKey key shapes).apply instruction usage v captures = .error e) :
    (requiredKey key shapes).Refusal instruction usage v e := by
  rcases mappingFor_cases instruction key v with ⟨m, rfl, hm⟩ | ⟨hnot, hm⟩
  · simp only [apply, hm, bind, Except.bind] at h
    cases hgiven : givenKey? m key with
    | none =>
        simp only [hgiven] at h
        cases h
        exact .missing rfl
    | some found =>
        simp only [hgiven] at h
        split at h
        · rename_i e' hcheck
          cases h
          exact .keyMismatch (.inl rfl) rfl hgiven hcheck
        · cases h
  · simp only [apply, hm, bind, Except.bind] at h
    cases h
    exact .wrongKind hnot

theorem refusal_of_optionalKey {key : String} {shapes : List Shape} {other : Option String}
    (h : (optionalKey key shapes other).apply instruction usage v captures = .error e) :
    (optionalKey key shapes other).Refusal instruction usage v e := by
  rcases mappingFor_cases instruction key v with ⟨m, rfl, hm⟩ | ⟨hnot, hm⟩
  · simp only [apply, hm, bind, Except.bind] at h
    cases hgiven : givenKey? m key with
    | none =>
        simp only [hgiven] at h
        cases h
    | some found =>
        simp only [hgiven] at h
        split at h
        · rename_i e' hcheck
          cases h
          exact .keyMismatch (.inr ⟨other, rfl⟩) rfl hgiven hcheck
        · cases other with
          | none => cases h
          | some name =>
              dsimp only at h
              split at h
              · cases h
                exact .exclusive rfl
              · cases h
  · simp only [apply, hm, bind, Except.bind] at h
    cases h
    exact .wrongKind hnot

theorem refusal_of_bounds {argument : String} {lower upper : Int64}
    (h : (bounds argument lower upper).apply instruction usage v captures = .error e) :
    (bounds argument lower upper).Refusal instruction usage v e := by
  cases v with
  | integer n =>
      simp only [apply] at h
      split at h
      · cases h
        exact .outOfBounds rfl
      · cases h
  | _ =>
      cases h
      exact .wrongKind (by rintro ⟨_, hv⟩; cases hv)

theorem refusal_of_pattern {argument : String} {form : Pattern}
    (h : (pattern argument form).apply instruction usage v captures = .error e) :
    (pattern argument form).Refusal instruction usage v e := by
  cases v with
  | string s =>
      simp only [apply] at h
      split at h
      · cases h
      · cases h
        exact .noMatch rfl
  | _ =>
      cases h
      exact .wrongKind (by rintro ⟨_, hv⟩; cases hv)

theorem refusal_of_members {argument : String} {count : Nat}
    (h : (members argument count).apply instruction usage v captures = .error e) :
    (members argument count).Refusal instruction usage v e := by
  cases v with
  | sequence items =>
      simp only [apply] at h
      split at h
      · cases h
      · cases h
        exact .wrongLength rfl
  | mapping m =>
      simp only [apply] at h
      split at h
      · cases h
      · cases h
        exact .wrongLength rfl
  | _ =>
      cases h
      exact .wrongKind (by intro hv; cases hv)

/-- A constraint that does not accept has one of these reasons. -/
theorem refusal_of_apply (h : c.apply instruction usage v captures = .error e) :
    c.Refusal instruction usage v e := by
  cases c with
  | required argument shape => exact refusal_of_required h
  | requiredKey key shapes => exact refusal_of_requiredKey h
  | optionalKey key shapes other => exact refusal_of_optionalKey h
  | bounds argument lower upper => exact refusal_of_bounds h
  | pattern argument form => exact refusal_of_pattern h
  | members argument count => exact refusal_of_members h

/-- The error of a constraint names the instruction and the argument that the constraint is
about. -/
theorem Refusal.names (h : c.Refusal instruction usage v e) :
    e.instruction? = some instruction ∧ e.argument? = some c.argument := by
  cases h with
  | wrongKind => exact ⟨rfl, rfl⟩
  | missing => exact ⟨rfl, rfl⟩
  | keyMismatch hkey _ _ hcheck =>
      rw [checkShapes_error hcheck]
      rcases hkey with rfl | ⟨other, rfl⟩
      · exact ⟨rfl, rfl⟩
      · exact ⟨rfl, rfl⟩
  | exclusive hc => subst hc; exact ⟨rfl, rfl⟩
  | outOfBounds hc => subst hc; exact ⟨rfl, rfl⟩
  | noMatch hc => subst hc; exact ⟨rfl, rfl⟩
  | wrongLength hc => subst hc; exact ⟨rfl, rfl⟩

/-- What a constraint accepts it could read, and a pattern makes captures where others pass on
those that were made before. -/
theorem of_apply (h : c.apply instruction usage v captures = .ok made) :
    c.CanRead v ∧ made.isSome = (captures.isSome || c.isPattern) := by
  cases c with
  | required argument shape =>
      obtain ⟨-, hshape, rfl⟩ := apply_required.mp h
      exact ⟨hshape, by simp [isPattern]⟩
  | requiredKey key shapes =>
      rcases mappingFor_cases instruction key v with ⟨m, rfl, hm⟩ | ⟨-, hm⟩
      · refine ⟨⟨m, rfl⟩, ?_⟩
        simp only [apply, hm, bind, Except.bind] at h
        split at h
        · cases h
        · split at h
          · cases h
          · cases h
            simp [isPattern]
      · simp only [apply, hm, bind, Except.bind] at h
        cases h
  | optionalKey key shapes exclusiveWith =>
      rcases mappingFor_cases instruction key v with ⟨m, rfl, hm⟩ | ⟨-, hm⟩
      · obtain ⟨-, -, rfl⟩ := apply_optionalKey.mp h
        exact ⟨⟨m, rfl⟩, by simp [isPattern]⟩
      · simp only [apply, hm, bind, Except.bind] at h
        cases h
  | bounds argument lower upper =>
      cases v with
      | integer n =>
          obtain ⟨-, rfl⟩ := apply_bounds.mp h
          exact ⟨⟨n, rfl⟩, by simp [isPattern]⟩
      | _ => cases h
  | pattern argument form =>
      cases v with
      | string s =>
          obtain ⟨groups, -, rfl⟩ := apply_pattern.mp h
          exact ⟨⟨s, rfl⟩, by simp [isPattern]⟩
      | _ => cases h
  | members argument count =>
      cases v with
      | sequence items =>
          simp only [apply] at h
          split at h
          · cases h
            exact ⟨rfl, by simp [isPattern]⟩
          · cases h
      | mapping m =>
          obtain ⟨-, rfl⟩ := apply_members.mp h
          exact ⟨rfl, by simp [isPattern]⟩
      | _ => cases h

/-- If a list of constraints does not accept, then one of them does not. -/
theorem refusal_of_applyAll {cs : List Constraint}
    (h : applyAll instruction usage v captures cs = .error e) :
    ∃ c ∈ cs, c.Refusal instruction usage v e := by
  induction cs generalizing captures with
  | nil => cases h
  | cons c rest ih =>
      rw [applyAll] at h
      cases hc : c.apply instruction usage v captures with
      | error e' =>
          rw [hc] at h
          cases h
          exact ⟨c, List.mem_cons_self, refusal_of_apply hc⟩
      | ok between =>
          rw [hc] at h
          obtain ⟨d, hd, refusal⟩ := ih h
          exact ⟨d, List.mem_cons_of_mem c hd, refusal⟩

/-- A list of constraints makes captures if there is a pattern among them. -/
theorem isSome_of_applyAll {cs : List Constraint}
    (h : applyAll instruction usage v captures cs = .ok made) :
    made.isSome = (captures.isSome || cs.any isPattern) := by
  induction cs generalizing captures with
  | nil =>
      rw [applyAll_nil_iff.mp h]
      simp
  | cons c rest ih =>
      obtain ⟨between, hc, hrest⟩ := applyAll_cons_iff.mp h
      rw [ih hrest, (of_apply hc).2, List.any_cons, Bool.or_assoc]

/-! ## Constraints and shapes -/

/-- The constraint makes sense for arguments of the shape. -/
def Suits (c : Constraint) (shape : Shape) : Prop :=
  match c with
  | .required _ wanted => wanted = shape
  | .requiredKey _ _ => shape = .mapping
  | .optionalKey key _ exclusiveWith => shape = .mapping ∧ exclusiveWith ≠ some key
  | .bounds _ lower upper => shape = .integer ∧ lower ≤ upper
  | .pattern _ _ => shape = .string
  | .members _ _ => shape.isCollection = true

theorem fault?_eq_none_iff {shape : Shape} : c.fault? shape = none ↔ c.Suits shape := by
  cases c with
  | bounds argument lower upper =>
      by_cases hshape : shape = .integer
      · by_cases hbounds : upper < lower
        · have hnot : ¬ lower ≤ upper := Int64.not_le.mpr hbounds
          simp [fault?, Suits, hshape, hbounds, hnot]
        · simp [fault?, Suits, hshape, hbounds, Int64.not_lt.mp hbounds]
      · simp [fault?, Suits, hshape]
  | optionalKey key shapes exclusiveWith =>
      by_cases hshape : shape = .mapping
      · by_cases hself : exclusiveWith = some key
        · simp [fault?, Suits, hshape, hself]
        · simp [fault?, Suits, hshape, hself]
      · simp [fault?, Suits, hshape]
  | _ => simp [fault?, Suits]

/-- A constraint that suits the shape can read every argument of that shape. -/
theorem canRead_of_suits {shape : Shape} (hc : c.Suits shape) (hv : v.shape? = some shape) :
    c.CanRead v := by
  cases c with
  | required argument wanted => exact hv.trans (congrArg some hc.symm)
  | requiredKey key shapes => exact Value.shape?_eq_mapping (hc ▸ hv)
  | optionalKey key shapes exclusiveWith => exact Value.shape?_eq_mapping (hc.1 ▸ hv)
  | bounds argument lower upper => exact Value.shape?_eq_integer (hc.1 ▸ hv)
  | pattern argument form => exact Value.shape?_eq_string (hc ▸ hv)
  | members argument count =>
      cases v with
      | sequence items => rfl
      | mapping m => rfl
      | _ => cases hv <;> cases hc

/-- An argument of the shape that passes a constraint which does not suit the shape: the constraint
has a key that excludes itself, and the key is not given. -/
theorem eq_optionalKey_of_not_suits {shape : Shape} (hc : ¬ c.Suits shape)
    (hv : v.shape? = some shape) (h : c.apply instruction usage v captures = .ok made) :
    ∃ key shapes m, c = .optionalKey key shapes (some key) ∧ v = .mapping m ∧
      givenKey? m key = none := by
  have hread := (of_apply h).1
  cases c with
  | required argument wanted =>
      have hwanted : wanted = shape := Option.some.inj (hread.symm.trans hv)
      exact absurd hwanted hc
  | requiredKey key shapes =>
      obtain ⟨m, rfl⟩ := hread
      exact absurd (Option.some.inj hv).symm hc
  | optionalKey key shapes exclusiveWith =>
      obtain ⟨m, rfl⟩ := hread
      have hself : exclusiveWith = some key :=
        Classical.byContradiction fun hother => hc ⟨(Option.some.inj hv).symm, hother⟩
      subst hself
      obtain ⟨-, hexcludes, -⟩ := apply_optionalKey.mp h
      refine ⟨key, shapes, m, rfl, rfl, givenKey?_eq_none_iff.mpr fun found hfound => ?_⟩
      rcases hexcludes key rfl found hfound with hnull | hcontains
      · exact hnull
      · -- a key that is found is there, so it cannot be missing beside itself
        rw [Mapping.contains_of_get? hfound] at hcontains
        cases hcontains
  | bounds argument lower upper =>
      obtain ⟨n, rfl⟩ := hread
      obtain ⟨⟨hlower, hupper⟩, -⟩ := apply_bounds.mp h
      exact absurd ⟨(Option.some.inj hv).symm, Int64.le_trans hlower hupper⟩ hc
  | pattern argument form =>
      obtain ⟨s, rfl⟩ := hread
      exact absurd (Option.some.inj hv).symm hc
  | members argument count =>
      cases v with
      | sequence items => cases hv; exact absurd rfl hc
      | mapping m => cases hv; exact absurd rfl hc
      | _ => cases hread

/-- Nothing stands behind a pattern. -/
def PatternLast (cs : List Constraint) : Prop :=
  ∀ before c behind, cs = before ++ c :: behind → c.isPattern = true → behind = []

theorem patternLast_cons_iff {rest : List Constraint} :
    PatternLast (c :: rest) ↔ (c.isPattern = true → rest = []) ∧ PatternLast rest := by
  constructor
  · intro h
    refine ⟨h [] c rest rfl, fun before d behind heq hd => ?_⟩
    exact h (c :: before) d behind (by rw [heq, List.cons_append]) hd
  · rintro ⟨hfirst, hrest⟩ before d behind heq hd
    cases before with
    | nil =>
        rw [List.nil_append, List.cons.injEq] at heq
        obtain ⟨rfl, rfl⟩ := heq
        exact hfirst hd
    | cons b before =>
        rw [List.cons_append, List.cons.injEq] at heq
        exact hrest before d behind heq.2 hd

end Constraint

namespace Handler

open Constraint

theorem checkConstraints_eq_ok_iff {instruction : String} {shape : Shape} {afterPattern seen : Bool}
    {cs : List Constraint} :
    checkConstraints instruction shape afterPattern cs = .ok seen ↔
      (∀ c ∈ cs, c.Suits shape) ∧ (afterPattern = true → cs = []) ∧ PatternLast cs ∧
        seen = (afterPattern || cs.any isPattern) := by
  induction cs generalizing afterPattern with
  | nil =>
      have hlast : PatternLast [] := fun before _ _ heq _ => by cases before <;> cases heq
      simp [checkConstraints, hlast, eq_comm]
  | cons c rest ih =>
      rw [checkConstraints, Constraint.checkDefinition, patternLast_cons_iff, List.forall_mem_cons,
        ← fault?_eq_none_iff]
      cases afterPattern with
      | true => simp
      | false =>
          cases hfault : c.fault? shape with
          | some fault => simp
          | none =>
              simp only [Bool.false_eq_true, if_false, ih, Bool.false_or, true_and, List.any_cons,
                false_implies]
              constructor
              · rintro ⟨hsuits, hfirst, hlast, hseen⟩
                exact ⟨hsuits, ⟨hfirst, hlast⟩, hseen⟩
              · rintro ⟨hsuits, ⟨hfirst, hlast⟩, hseen⟩
                exact ⟨hsuits, hfirst, hlast, hseen⟩

/-- The definitions that pass the check. -/
theorem checkDefinition_eq_ok_iff {h : Handler} :
    h.checkDefinition = .ok () ↔
      (h.instruction ≠ "" ∧ ∀ c ∈ h.instruction.toList, Text.isBlank c = false) ∧
        (∀ c ∈ h.constraints, c.Suits h.shape) ∧ PatternLast h.constraints ∧
        (h.readsCaptures = true → ∃ c ∈ h.constraints, c.isPattern = true) := by
  have hword : (h.instruction.isEmpty || h.instruction.toList.any Text.isBlank) = false ↔
      h.instruction ≠ "" ∧ ∀ c ∈ h.instruction.toList, Text.isBlank c = false := by
    simp
  rw [checkDefinition, ← hword]
  cases h.instruction.isEmpty || h.instruction.toList.any Text.isBlank with
  | true => simp
  | false =>
      cases hchecked : checkConstraints h.instruction h.shape false h.constraints with
      | error e =>
          simp only [Bool.false_eq_true, if_false, reduceCtorEq, true_and, false_iff]
          rintro ⟨hsuits, hlast, -⟩
          have hpass : checkConstraints h.instruction h.shape false h.constraints = .ok _ :=
            checkConstraints_eq_ok_iff.mpr ⟨hsuits, (nomatch ·), hlast, rfl⟩
          rw [hpass] at hchecked
          cases hchecked
      | ok seen =>
          obtain ⟨hsuits, -, hlast, hseen⟩ := checkConstraints_eq_ok_iff.mp hchecked
          rw [Bool.false_or] at hseen
          subst hseen
          cases hreads : h.readsCaptures with
          | false => simp [iff_true_intro hsuits, hlast]
          | true => simp [iff_true_intro hsuits, hlast]

/-- What holds of a handler and an argument of its shape if the definition passed the check. -/
structure Guarded (h : Handler) (v : Value) : Prop where
  /-- No constraint meets an argument that it cannot read as a whole. -/
  reads : ∀ c ∈ h.constraints, c.CanRead v
  /-- If a constraint complains of a wrong kind, it is the kind of the value under a key. -/
  mismatch : ∀ c ∈ h.constraints, ∀ {captures instruction argument expected received},
    c.apply h.instruction h.usage v captures =
        .error (.argumentType instruction argument expected received) →
      ∃ key shapes m found, c.ChecksKey key shapes ∧ v = .mapping m ∧
        givenKey? m key = some found ∧ checkShapes h.instruction key shapes found =
          .error (.argumentType instruction argument expected received)
  /-- Behind the constraints the body is handed the argument as it came. -/
  handed : ∀ {captures}, h.validate v = .ok captures → ∀ (t : HandlerTable) inner? name,
    t.lookup name h.shape = .ok h →
      t.lineBy inner? name v =
        ((h.body ⟨h.instruction, h.usage, v, captures⟩).outcome? inner?).map (·.map h.lineOf)
  /-- There are captures if and only if there is a pattern, … -/
  captures : ∀ {captures}, h.validate v = .ok captures →
    (captures.isSome = true ↔ ∃ c ∈ h.constraints, c.isPattern = true)
  /-- … which then is the last constraint. -/
  last : PatternLast h.constraints
  /-- A body that is declared to read captures finds them. -/
  present : h.readsCaptures = true → ∀ {captures}, h.validate v = .ok captures →
    ∃ groups, (h.callFor v captures).capturesOrError = .ok groups

theorem guarded_of_checkDefinition {h : Handler} (hcheck : h.checkDefinition = .ok ()) {v : Value}
    (hv : v.shape? = some h.shape) : h.Guarded v := by
  obtain ⟨-, hsuits, hlast, hreads⟩ := checkDefinition_eq_ok_iff.mp hcheck
  have hread : ∀ c ∈ h.constraints, c.CanRead v := fun c hc => canRead_of_suits (hsuits c hc) hv
  have hcaptures : ∀ {captures}, h.validate v = .ok captures →
      (captures.isSome = true ↔ ∃ c ∈ h.constraints, c.isPattern = true) := by
    intro captures hvalid
    rw [isSome_of_applyAll hvalid, Option.isSome_none, Bool.false_or, List.any_eq_true]
  refine ⟨hread, ?_, ?_, hcaptures, hlast, ?_⟩
  · intro c hc captures instruction argument expected received herror
    cases refusal_of_apply herror with
    | wrongKind hnot => exact absurd (hread c hc) hnot
    | keyMismatch hkey hm hgiven hcheck => exact ⟨_, _, _, _, hkey, hm, hgiven, hcheck⟩
  · intro captures hvalid t inner? name hlookup
    simp only [HandlerTable.lineBy, Value.dispatchShape, hv, hlookup, hvalid, callFor]
  · intro hdeclared captures hvalid
    obtain ⟨groups, rfl⟩ := Option.isSome_iff_exists.mp ((hcaptures hvalid).mpr (hreads hdeclared))
    exact ⟨groups, rfl⟩

end Handler

end ImageRecipe
