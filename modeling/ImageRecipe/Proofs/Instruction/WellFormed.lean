import ImageRecipe.Proofs.Instruction.Definition
import ImageRecipe.Proofs.Instruction.Registration

/-!
# Which handlers can be registered

A registry takes a handler if its definition is well-formed and its key is free, and only then.
What it refuses it refuses for a defect of the handler, and says so under the name in capitals.

* `Handler.WellFormed`, `Handler.checkDefinition_eq_ok_iff_wellFormed` : the definitions that pass
* `Constraint.PatternLast.isPattern_of_mem_dropLast`, `Constraint.PatternLast.countP_le` : how many
  patterns there are, and where
* `Handler.Defect`, `Handler.defect_of_checkConstraints`, `Handler.defect_of_checkDefinition` : what
  is wrong with the others
* `register_iff_wellFormed` : what a registry takes and what it refuses
-/

namespace ImageRecipe

namespace Constraint.PatternLast

variable {cs : List Constraint}

/-- Only the last constraint can be a pattern, … -/
theorem isPattern_of_mem_dropLast (h : PatternLast cs) :
    ∀ c ∈ cs.dropLast, c.isPattern = false := by
  intro c hc
  rw [Bool.eq_false_iff]
  intro hpattern
  obtain ⟨before, behind, hsplit⟩ := List.append_of_mem hc
  have hne : cs ≠ [] := by
    rintro rfl
    cases hc
  have hcs : cs = before ++ c :: (behind ++ [cs.getLast hne]) := by
    rw [← List.cons_append, ← List.append_assoc, ← hsplit, List.dropLast_concat_getLast hne]
  exact List.concat_ne_nil _ _ (h before c _ hcs hpattern)

/-- … so that there is one at most. -/
theorem countP_le (h : PatternLast cs) : cs.countP isPattern ≤ 1 := by
  rcases List.eq_nil_or_concat cs with rfl | ⟨front, last, rfl⟩
  · exact Nat.zero_le 1
  · have hfront : front.countP isPattern = 0 := by
      rw [List.countP_eq_zero]
      intro c hc
      have hother := h.isPattern_of_mem_dropLast c (by simpa using hc)
      simp [hother]
    have hlast : [last].countP isPattern ≤ 1 := List.countP_le_length
    rw [List.concat_eq_append, List.countP_append, hfront, Nat.zero_add]
    exact hlast

end Constraint.PatternLast

namespace Handler

open Constraint

/-- The definition of a handler makes sense. -/
structure WellFormed (h : Handler) : Prop where
  /-- The instruction has a name, … -/
  named : h.instruction ≠ ""
  /-- … which is a single word. -/
  oneWord : ∀ c ∈ h.instruction.toList, Text.isBlank c = false
  suits : ∀ c ∈ h.constraints, c.Suits h.shape
  /-- No constraint looks at an argument that a pattern has replaced. -/
  patternLast : PatternLast h.constraints
  /-- If the body reads captures, there is a pattern that makes them. -/
  capturesMade : h.readsCaptures = true → ∃ c ∈ h.constraints, c.isPattern = true

theorem checkDefinition_eq_ok_iff_wellFormed {h : Handler} :
    h.checkDefinition = .ok () ↔ h.WellFormed := by
  rw [checkDefinition_eq_ok_iff]
  constructor
  · rintro ⟨⟨named, oneWord⟩, suits, patternLast, capturesMade⟩
    exact ⟨named, oneWord, suits, patternLast, capturesMade⟩
  · rintro ⟨named, oneWord, suits, patternLast, capturesMade⟩
    exact ⟨⟨named, oneWord⟩, suits, patternLast, capturesMade⟩

/-! ## Defects -/

/-- What is wrong with a handler that comes to others.  Of its constraints the first that is wrong
counts, be it for its place or for itself. -/
inductive Defect (h : Handler) (others : List Handler) : DefinitionFault → Prop where
  | nameNotAWord : (h.instruction = "" ∨ ∃ c ∈ h.instruction.toList, Text.isBlank c = true) →
      Defect h others .nameNotAWord
  | afterPattern {before behind : List Constraint} {c : Constraint} :
      h.constraints = before ++ c :: behind → (∀ d ∈ before, d.Suits h.shape) →
      PatternLast before → (∃ d ∈ before, d.isPattern = true) →
      Defect h others (.afterPattern c.description)
  | unsuited {before behind : List Constraint} {c : Constraint} {fault : DefinitionFault} :
      h.constraints = before ++ c :: behind → (∀ d ∈ before, d.Suits h.shape) →
      (∀ d ∈ before, d.isPattern = false) → ¬c.Suits h.shape → c.fault? h.shape = some fault →
      Defect h others fault
  | capturesNeverMade : h.readsCaptures = true → (∀ c ∈ h.constraints, c.isPattern = false) →
      Defect h others .capturesNeverMade
  | duplicate {g : Handler} : g ∈ others → g.instruction = h.instruction → g.shape = h.shape →
      Defect h others (.duplicate h.key.text)

/-- If constraints are refused, then for the first that is refused behind those that pass. -/
theorem checkConstraints_error {instruction : String} {shape : Shape} {afterPattern : Bool}
    {cs : List Constraint} {e : InstructionError}
    (h : checkConstraints instruction shape afterPattern cs = .error e) :
    ∃ before c behind seen, cs = before ++ c :: behind ∧
      checkConstraints instruction shape afterPattern before = .ok seen ∧
      c.checkDefinition instruction shape seen = .error e := by
  induction cs generalizing afterPattern with
  | nil => cases h
  | cons c rest ih =>
      rw [checkConstraints] at h
      cases hc : c.checkDefinition instruction shape afterPattern with
      | error e' =>
          rw [hc] at h
          cases h
          exact ⟨[], c, rest, afterPattern, rfl, rfl, hc⟩
      | ok passed =>
          rw [hc] at h
          obtain ⟨before, d, behind, seen, rfl, hbefore, hd⟩ := ih h
          refine ⟨c :: before, d, behind, seen, rfl, ?_, hd⟩
          rw [checkConstraints, hc]
          exact hbefore

/-- Refused constraints are a defect: one stands behind a pattern, or does not suit the shape. -/
theorem defect_of_checkConstraints {h : Handler} {e : InstructionError}
    (he : checkConstraints h.instruction h.shape false h.constraints = .error e)
    (others : List Handler) :
    ∃ fault, e = .definition h.instruction fault ∧ h.Defect others fault := by
  obtain ⟨before, c, behind, seen, hsplit, hbefore, hc⟩ := checkConstraints_error he
  -- the constraints in front passed, so that `seen` tells whether there is a pattern among them
  obtain ⟨hsuits, -, hlast, hseen⟩ := checkConstraints_eq_ok_iff.mp hbefore
  rw [Bool.false_or] at hseen
  rw [Constraint.checkDefinition] at hc
  cases seen with
  | true =>
      cases hc
      exact ⟨_, rfl, .afterPattern hsplit hsuits hlast (List.any_eq_true.mp hseen.symm)⟩
  | false =>
      have hothers : ∀ d ∈ before, d.isPattern = false := by simpa using hseen
      cases hfault : c.fault? h.shape with
      | none =>
          rw [hfault] at hc
          cases hc
      | some fault =>
          rw [hfault] at hc
          cases hc
          have hunsuited : ¬c.Suits h.shape := by
            rw [← fault?_eq_none_iff, hfault]
            exact Option.some_ne_none fault
          exact ⟨fault, rfl, .unsuited hsplit hsuits hothers hunsuited hfault⟩

/-- A refused definition has a defect, whatever the other handlers are. -/
theorem defect_of_checkDefinition {h : Handler} {e : InstructionError}
    (he : h.checkDefinition = .error e) (others : List Handler) :
    ∃ fault, e = .definition h.instruction fault ∧ h.Defect others fault := by
  rw [checkDefinition] at he
  cases hword : h.instruction.isEmpty || h.instruction.toList.any Text.isBlank with
  | true =>
      rw [hword] at he
      cases he
      exact ⟨_, rfl, .nameNotAWord (by simpa using hword)⟩
  | false =>
      rw [hword] at he
      cases hchecked : checkConstraints h.instruction h.shape false h.constraints with
      | error e' =>
          rw [hchecked] at he
          cases he
          exact defect_of_checkConstraints hchecked others
      | ok seen =>
          obtain ⟨-, -, -, hseen⟩ := checkConstraints_eq_ok_iff.mp hchecked
          rw [Bool.false_or] at hseen
          rw [hchecked] at he
          cases hcaptures : h.readsCaptures && !seen with
          | false =>
              simp [hcaptures] at he
          | true =>
              simp only [hcaptures, Bool.false_eq_true, if_false, if_true] at he
              cases he
              obtain ⟨hreads, hnone⟩ := Bool.and_eq_true_iff.mp hcaptures
              rw [hseen] at hnone
              exact ⟨_, rfl, .capturesNeverMade hreads (by simpa using hnone)⟩

end Handler

/-! ## Registering -/

namespace Registry

variable {r : Registry} {h : Handler}

theorem exists_register_iff :
    (∃ r', r.register h = .ok r') ↔ h.WellFormed ∧ ∀ g ∈ r.handlers, g.key ≠ h.key := by
  rw [← Handler.checkDefinition_eq_ok_iff_wellFormed]
  have hrefused : ∀ {e}, r.register h = .error e → ¬∃ r', r.register h = .ok r' := by
    rintro e he ⟨r', hr⟩
    rw [he] at hr
    cases hr
  rcases r.register_cases h with ⟨hcheck, hnew, heq⟩ | ⟨e, hcheck, heq⟩ | ⟨-, ⟨g, hg, hkey⟩, heq⟩
  · exact iff_of_true ⟨_, heq⟩ ⟨hcheck, hnew⟩
  · refine iff_of_false (hrefused heq) ?_
    rintro ⟨hok, -⟩
    rw [hcheck] at hok
    cases hok
  · refine iff_of_false (hrefused heq) ?_
    rintro ⟨-, hnew⟩
    exact hnew g hg hkey

theorem defect_of_register {e : InstructionError} (he : r.register h = .error e) :
    ∃ fault, e = .definition h.instruction fault ∧ h.Defect r.handlers fault := by
  rcases r.register_cases h with ⟨-, -, heq⟩ | ⟨e', hcheck, heq⟩ | ⟨-, ⟨g, hg, hkey⟩, heq⟩
  · rw [heq] at he
    cases he
  · rw [heq] at he
    cases he
    exact Handler.defect_of_checkDefinition hcheck r.handlers
  · rw [heq] at he
    cases he
    exact ⟨_, rfl, .duplicate hg (congrArg HandlerKey.instruction hkey)
      (congrArg HandlerKey.shape hkey)⟩

end Registry

/-- After every session the registry takes a handler if and only if its definition is well-formed
and no registered one has its instruction and shape.  Among its constraints there is then one
pattern at most, in the last place.  What is refused has a defect, which the error names together
with the instruction. -/
theorem register_iff_wellFormed (start : Start) (earlier : List Request) (h : Handler) :
    ((∃ r', (start.registry.after earlier).register h = .ok r') ↔
      h.WellFormed ∧ ∀ g ∈ start.registry.registered earlier,
        ¬(g.instruction = h.instruction ∧ g.shape = h.shape)) ∧
    (h.WellFormed → h.constraints.countP Constraint.isPattern ≤ 1 ∧
      ∀ c ∈ h.constraints.dropLast, c.isPattern = false) ∧
    ∀ e, (start.registry.after earlier).register h = .error e →
      ∃ fault, e = .definition (Text.asciiUpper h.name) fault ∧
        h.Defect (start.registry.registered earlier) fault := by
  have hkey : ∀ g : Handler,
      (g.instruction = h.instruction ∧ g.shape = h.shape) ↔ g.key = h.key := by
    intro g
    rw [Handler.key, Handler.key, HandlerKey.mk.injEq]
  simp only [hkey, ← Registry.after_handlers]
  exact ⟨Registry.exists_register_iff,
    fun sound => ⟨sound.patternLast.countP_le, sound.patternLast.isPattern_of_mem_dropLast⟩,
    fun e he => Registry.defect_of_register he⟩

/-- A handler whose body reads the captures of its last constraint. -/
def nicknameHandler : Handler where
  name := "nickname"
  shape := .string
  usage := "<word>"
  constraints := [.required "word" .string, .pattern "word" .word]
  readsCaptures := true
  body := .verbatim

/-- The same with a constraint behind the pattern. -/
def lateHandler : Handler :=
  { nicknameHandler with constraints := nicknameHandler.constraints ++ [.members "word" 1] }

/-- The first is taken behind another new handler, but only once, and the second is refused. -/
theorem register_iff_wellFormed_nickname :
    nicknameHandler.WellFormed ∧
    (∃ r', (Start.builtin.registry.after [.register maintainerHandler]).register nicknameHandler =
      .ok r') ∧
    nicknameHandler.constraints.countP Constraint.isPattern ≤ 1 ∧
    (¬∃ r', (Start.builtin.registry.after [.register nicknameHandler]).register nicknameHandler =
      .ok r') ∧
    (Start.builtin.registry.after [.register maintainerHandler]).register lateHandler =
      .error (.definition "NICKNAME" (.afterPattern "collection length on \"word\"")) ∧
    lateHandler.Defect (Start.builtin.registry.registered [.register maintainerHandler])
      (.afterPattern "collection length on \"word\"") := by
  have hformed : nicknameHandler.WellFormed :=
    Handler.checkDefinition_eq_ok_iff_wellFormed.mp rfl
  obtain ⟨haccepts, hpatterns, -⟩ :=
    register_iff_wellFormed .builtin [.register maintainerHandler] nicknameHandler
  have hfree : ∀ g ∈ Start.builtin.registry.registered [.register maintainerHandler],
      ¬(g.instruction = nicknameHandler.instruction ∧ g.shape = nicknameHandler.shape) := by
    have hnames : ∀ name ∈ (builtinHandlers ++ [maintainerHandler]).map Handler.instruction,
        name ≠ nicknameHandler.instruction := by decide
    rintro g hg ⟨hname, -⟩
    exact hnames g.instruction (List.mem_map_of_mem hg) hname
  have hrefused : (Start.builtin.registry.after [.register maintainerHandler]).register
      lateHandler =
        .error (.definition "NICKNAME" (.afterPattern "collection length on \"word\"")) := rfl
  obtain ⟨fault, hfault, hdefect⟩ :=
    (register_iff_wellFormed .builtin [.register maintainerHandler] lateHandler).2.2 _ hrefused
  cases hfault
  refine ⟨hformed, haccepts.mpr ⟨hformed, hfree⟩, (hpatterns hformed).1, ?_, hrefused, hdefect⟩
  rw [(register_iff_wellFormed .builtin [.register nicknameHandler] nicknameHandler).1]
  rintro ⟨-, hnew⟩
  have hthere : nicknameHandler ∈
      Start.builtin.registry.registered [.register nicknameHandler] :=
    List.mem_append_right builtinHandlers List.mem_cons_self
  exact hnew nicknameHandler hthere ⟨rfl, rfl⟩

end ImageRecipe
