import ImageRecipe.Proofs.Instruction.Capitals
import ImageRecipe.Proofs.Instruction.HealthCheck
import ImageRecipe.Proofs.Instruction.Nesting
import ImageRecipe.Proofs.Instruction.Reading

/-!
# Whom an error names

In a table with handlers of any kind an error is raised for an instruction, which it then names in
capitals, or it comes out of an instruction inside, or a body that is not built in made it.

* `Handler.instruction?_of_checkDefinition` : the errors of definitions
* `Plan.outcome?_onLine` : a plan that goes on with an inner line
* `error_of_builtin` : the errors of the built-in bodies, whatever the inner lines are
* `Traced`, `HandlerTable.traced_of_line?` : the errors of conversions
-/

namespace ImageRecipe

open Converter (builtin)

/-! ## Definitions -/

namespace Handler

theorem instruction?_of_checkConstraints {instruction : String} {shape : Shape}
    {afterPattern : Bool} {cs : List Constraint} {e : InstructionError}
    (h : checkConstraints instruction shape afterPattern cs = .error e) :
    e.instruction? = some instruction := by
  induction cs generalizing afterPattern with
  | nil => cases h
  | cons c rest ih =>
      simp only [checkConstraints] at h
      split at h
      · rename_i e' hcheck
        cases h
        simp only [Constraint.checkDefinition] at hcheck
        split at hcheck
        · cases hcheck
          rfl
        · split at hcheck
          · cases hcheck
            rfl
          · cases hcheck
      · exact ih h

/-- A definition is refused under the name in capitals. -/
theorem instruction?_of_checkDefinition {h : Handler} {e : InstructionError}
    (he : h.checkDefinition = .error e) : e.instruction? = some h.instruction := by
  simp only [checkDefinition] at he
  split at he
  · cases he
    rfl
  · split at he
    · rename_i hconstraints
      cases he
      exact instruction?_of_checkConstraints hconstraints
    · split at he
      · cases he
        rfl
      · cases he

end Handler

/-! ## Plans -/

/-- A plan that goes on with a line, and ends with the error of the line if there is one. -/
theorem Plan.outcome?_onLine (line? : String → Value → Option (Except InstructionError String))
    (name : String) (inner : Value) (resume : String → Plan) :
    (Plan.onLine name inner resume).outcome? line? =
      (line? name inner).bind fun outcome =>
        match outcome with
        | .ok line => (resume line).outcome? line?
        | .error e => some (.error e) := by
  rw [Plan.onLine, Plan.outcome?]
  cases line? name inner with
  | none => rfl
  | some outcome =>
      cases outcome with
      | ok line => rfl
      | error e => rfl

/-- What only writes down the line has no error but that of the line. -/
theorem Plan.error_of_onLine {line? : String → Value → Option (Except InstructionError String)}
    {name : String} {inner : Value} {make : String → String} {e : InstructionError}
    (h : (Plan.onLine name inner fun line => .text (make line)).outcome? line? =
      some (.error e)) : line? name inner = some (.error e) := by
  rw [outcome?_onLine] at h
  cases hline : line? name inner with
  | none => rw [hline] at h; cases h
  | some outcome =>
      rw [hline] at h
      cases outcome with
      | ok line => cases h
      | error e' => exact h

/-! ## Built-in bodies -/

/-- A built-in handler is known by its key. -/
theorem builtinHandlers_eq_of_key {g h : Handler} (hg : g ∈ builtinHandlers)
    (hh : h ∈ builtinHandlers) (hkey : g.key = h.key) : g = h :=
  Start.builtin.coherent.eq_of_key hg hh hkey

/-- The body of a trigger fails at once, or with the line inside. -/
theorem Body.error_of_trigger {call : Call} {key : String} {w : Value}
    {inner? : String → Value → Option (Except InstructionError String)} {e : InstructionError}
    (h : (Body.trigger call).outcome? inner? = some (.error e))
    (hv : call.value = .object key w) :
    e.instruction? = some call.instruction ∨ inner? key w = some (.error e) := by
  simp only [trigger, Call.onlyEntry, Call.mapping, hv, Value.object, Mapping.first?,
    List.head?_cons] at h
  split at h
  · cases h
    exact .inl rfl
  · exact .inr (Plan.error_of_onLine h)

/-- The body of a health check fails at an option or for want of a command, or with the line of the
command. -/
theorem Body.error_of_healthcheck {call : Call} {m : Mapping Value}
    {inner? : String → Value → Option (Except InstructionError String)} {e : InstructionError}
    (h : (Body.healthcheck call).outcome? inner? = some (.error e))
    (hv : call.value = .mapping m) :
    e.instruction? = some call.instruction ∨
      ∃ w, m.get? "cmd" = some w ∧ inner? "CMD" w = some (.error e) := by
  simp only [healthcheck, Call.mapping, hv] at h
  split at h
  · rename_i hflags
    cases h
    obtain ⟨argument, found, rfl⟩ := Call.flags_error hflags
    exact .inl rfl
  · split at h
    · cases h
      exact .inl rfl
    · rename_i w hget
      exact .inr ⟨w, hget, Plan.error_of_onLine h⟩

section Builtin

variable {h : Handler} {v : Value} {captures : Option Captures} {e : InstructionError}
  {inner? : String → Value → Option (Except InstructionError String)}

/-- A plain body does not depend on inner lines, so that it fails as it does in the converter of
the built-in handlers. -/
theorem instruction?_of_plain (hmem : h ∈ builtinHandlers) (hshape : v.shape? = some h.shape)
    (hvalid : h.validate v = .ok captures) {f : Call → Except InstructionError String}
    (hb : h.body = .pure f)
    (hnest : ¬ (h.instruction ∈ Body.notNestable ∧ h.shape = .mapping))
    (he : (h.body (h.callFor v captures)).outcome? inner? = some (.error e)) :
    e.instruction? = some h.instruction := by
  have herror : builtin.carryOut (h.body (h.callFor v captures)) = .error e := by
    rw [hb] at he ⊢
    exact Option.some.inj he
  rcases builtinHandlers_traceFailures h hmem hshape captures hvalid e herror with hbody | hinner
  · exact (Raised.inBody hbody).instruction?
  · refine absurd ?_ hnest
    cases hinner with
    | ofTrigger hname hv =>
        subst hv
        exact ⟨by rw [hname]; decide, (Option.some.inj hshape).symm⟩
    | ofCommand hname hv =>
        subst hv
        exact ⟨by rw [hname]; decide, (Option.some.inj hshape).symm⟩

/-- A built-in body fails for its own instruction, or with the line that it asks for. -/
theorem error_of_builtin (hmem : h ∈ builtinHandlers) (hshape : v.shape? = some h.shape)
    (hvalid : h.validate v = .ok captures)
    (he : (h.body (h.callFor v captures)).outcome? inner? = some (.error e)) :
    e.instruction? = some h.instruction ∨
      (h.instruction = "ONBUILD" ∧ ∃ key w, v = .object key w ∧ inner? key w = some (.error e)) ∨
      (h.instruction = "HEALTHCHECK" ∧ ∃ m w, v = .mapping m ∧ m.get? "cmd" = some w ∧
        inner? "CMD" w = some (.error e)) := by
  by_cases hnest : h.instruction ∈ Body.notNestable ∧ h.shape = .mapping
  · obtain ⟨hname, hs⟩ := hnest
    have hkey : h.key = ⟨h.instruction, .mapping⟩ := congrArg (HandlerKey.mk _) hs
    rcases List.mem_pair.mp hname with hname | hname
    · have hown : triggerHandler.key = ⟨"ONBUILD", .mapping⟩ := by decide
      obtain rfl := builtinHandlers_eq_of_key hmem triggerHandler_mem
        (hkey.trans (hname ▸ hown.symm))
      obtain ⟨key, w, rfl⟩ := Converter.entry_of_members rfl rfl hshape hvalid
      have htrigger : (Body.trigger (triggerHandler.callFor (.object key w) captures)).outcome?
          inner? = some (.error e) := he
      rcases Body.error_of_trigger htrigger rfl with hown | hinner
      · exact .inl hown
      · exact .inr (.inl ⟨hname, key, w, rfl, hinner⟩)
    · obtain ⟨g, hg, hgname, hgs, -, hb, -⟩ := exists_healthcheck_handler
      have hown : g.key = ⟨"HEALTHCHECK", .mapping⟩ := by
        rw [Handler.key, builtinHandlers_instruction g hg, hgname, hgs]
      obtain rfl := builtinHandlers_eq_of_key hmem hg (hkey.trans (hname ▸ hown.symm))
      obtain ⟨m, rfl⟩ := Value.shape?_eq_mapping (hs ▸ hshape)
      rw [hb] at he
      rcases Body.error_of_healthcheck he rfl with hown | ⟨w, hget, hinner⟩
      · exact .inl hown
      · exact .inr (.inr ⟨hname, m, w, rfl, hget, hinner⟩)
  · have hinstruction := builtinHandlers_instruction h hmem
    cases builtinHandlers_kind h hmem with
    | trigger hname hs =>
        exact absurd ⟨by rw [hinstruction, hname]; decide, hs⟩ hnest
    | healthcheck hname hs =>
        exact absurd ⟨by rw [hinstruction, hname]; decide, hs⟩ hnest
    | verbatim _ _ hb | wordArray _ _ hb | imageText _ _ hb | argumentText _ _ hb
    | requiredInteger _ _ hb | bounds _ _ hb | execSequence _ _ hb | quotedLines _ _ hb
    | spaceSeparated _ _ hb | execMapping _ _ hb | pairs _ _ hb | imageMapping _ _ hb
    | argumentMapping _ _ hb | noHealthcheck _ _ hb =>
        exact .inl (instruction?_of_plain hmem hshape hvalid hb hnest he)

end Builtin

/-! ## Conversions -/

/-- The inner lines that a table allows at a depth. -/
def HandlerTable.inner? (t : HandlerTable) :
    Nat → String → Value → Option (Except InstructionError String)
  | 0 => fun _ _ => none
  | depth + 1 => t.line? depth

theorem HandlerTable.line?_eq (t : HandlerTable) (depth : Nat) :
    t.line? depth = t.lineBy (t.inner? depth) := by
  cases depth with
  | zero => rfl
  | succ depth => rfl

/-- Where the error of a conversion comes from, and thereby whom it names. -/
inductive Traced (t : HandlerTable) (depth : Nat) (name : String) (v : Value)
    (e : InstructionError) : Prop where
  /-- It is raised for the instruction, which it names in capitals. -/
  | own : e.instruction? = some (Text.asciiUpper name) → Traced t depth name v e
  /-- It is the error of the instruction in a trigger. -/
  | ofTrigger {inner : String} {w : Value} : Text.asciiUpper name = "ONBUILD" →
      v = .object inner w → t.inner? depth inner w = some (.error e) → Traced t depth name v e
  /-- It is the error of the command of a health check. -/
  | ofCommand {m : Mapping Value} {w : Value} : Text.asciiUpper name = "HEALTHCHECK" →
      v = .mapping m → m.get? "cmd" = some w → t.inner? depth "CMD" w = some (.error e) →
      Traced t depth name v e
  /-- A body that is not built in made it; that body was given the name in capitals. -/
  | foreign {h : Handler} {captures : Option Captures} : h ∈ t.handlers → h ∉ builtinHandlers →
      h.instruction = Text.asciiUpper name →
      (h.body (h.callFor v captures)).outcome? (t.inner? depth) = some (.error e) →
      Traced t depth name v e

/-- Every error of a conversion can be traced. -/
theorem HandlerTable.traced_of_line? {t : HandlerTable} {depth : Nat} {name : String} {v : Value}
    {e : InstructionError} (h : t.line? depth name v = some (.error e)) :
    Traced t depth name v e := by
  rw [t.line?_eq, lineBy_eq_some_iff] at h
  rcases h with ⟨e', hshape, heq⟩ | ⟨shape, e', hshape, hlookup, heq⟩ |
    ⟨shape, g, hshape, hlookup, hend⟩
  · cases heq
    simp only [Value.dispatchShape] at hshape
    split at hshape
    · cases hshape
    · cases hshape
      exact .own rfl
  · cases heq
    obtain rfl := error_of_lookup hlookup
    exact .own rfl
  · have hname : g.instruction = Text.asciiUpper name :=
      congrArg HandlerKey.instruction (key_of_lookup hlookup)
    rcases hend with ⟨e', hinvalid, heq⟩ | ⟨captures, result, hvalid, hresult, heq⟩
    · cases heq
      obtain ⟨c, hc, refusal⟩ := Constraint.refusal_of_applyAll hinvalid
      exact .own (hname ▸ refusal.names.1)
    · obtain rfl : result = .error e := Results.error_of_map heq.symm
      by_cases hmem : g ∈ builtinHandlers
      · rcases error_of_builtin hmem (shape?_of_lookup hshape hlookup) hvalid hresult with
          hown | ⟨hon, key, w, hv, hinner⟩ | ⟨hcheck, m, w, hv, hget, hinner⟩
        · exact .own (hname ▸ hown)
        · exact .ofTrigger (hname ▸ hon) hv hinner
        · exact .ofCommand (hname ▸ hcheck) hv hget hinner
      · exact .foreign (mem_of_lookup hlookup) hmem hname hresult

end ImageRecipe
