import ImageRecipe.Proofs.Instruction.Builtin
import ImageRecipe.Proofs.Instruction.Definition
import ImageRecipe.Proofs.Instruction.Kind
import ImageRecipe.Proofs.Results

/-!
# How built-in instructions fail

Every failure of a built-in instruction is raised at one place, for the instruction at hand or for
one inside it, and comes out unchanged.

* `BodyError`, `Raised` : the errors that are raised for an instruction, by its body or before it
* `InnerFailure` : the failure of the instruction inside a trigger or a health check
* `Handler.TracesFailures` : behind the constraints there is nothing but these, kind by kind
* `raised_or_inner_of_line`, `raised_of_line` : where a failure comes from
* `Attributed`, `builtin_failure_attributed` : what it says about that
-/

namespace ImageRecipe

open Converter

/-! ## Places -/

/-- The errors that a body of its own raises for an argument that passed the constraints. -/
inductive BodyError (instruction : String) (v : Value) : InstructionError → Prop where
  /-- A part of the argument cannot be written into a line. -/
  | notScalar {argument : String} {found : Value} :
      BodyError instruction v (.argumentType instruction argument "scalar" found.kind)
  | notNestable {key : String} {inner : Value} : instruction = "ONBUILD" →
      v = .mapping ⟨[(key, inner)]⟩ → Text.asciiUpper key ∈ Body.notNestable →
      BodyError instruction v (.notNestable instruction (Text.asciiUpper key))

/-- The errors that are raised for an instruction, its name in capitals, with this argument. -/
inductive Raised (instruction : String) (v : Value) : InstructionError → Prop where
  /-- There is nothing to dispatch on. -/
  | noShape : v.shape? = none → Raised instruction v (.noShape instruction v.kind)
  | noHandler {shape : Shape} : v.shape? = some shape →
      ⟨instruction, shape⟩ ∉ builtinHandlers.map Handler.key →
      Raised instruction v (.noHandler instruction shape)
  /-- A constraint does not accept the argument. -/
  | refused {h : Handler} {c : Constraint} {e : InstructionError} : h ∈ builtinHandlers →
      h.instruction = instruction → v.shape? = some h.shape → c ∈ h.constraints →
      c.Refusal instruction h.usage v e → Raised instruction v e
  | inBody {e : InstructionError} : BodyError instruction v e → Raised instruction v e

/-- The very failure of the instruction inside the argument. -/
inductive InnerFailure (instruction : String) (v : Value) (e : InstructionError) : Prop where
  | ofTrigger {key : String} {inner : Value} : instruction = "ONBUILD" →
      v = .mapping ⟨[(key, inner)]⟩ → Text.asciiUpper key ∉ Body.notNestable →
      builtin.line key inner = .error e → InnerFailure instruction v e
  | ofCommand {m : Mapping Value} {command : Value} : instruction = "HEALTHCHECK" →
      v = .mapping m → m.get? "cmd" = some command →
      command.HasShape [.string, .sequence, .mapping] →
      builtin.line "CMD" command = .error e → InnerFailure instruction v e

/-! ## Bodies that fail at scalars only -/

/-- The body fails, if at all, at a part of the argument that is no scalar. -/
def Body.FailsAtScalars (body : Body) (call : Call) : Prop :=
  ∀ e, builtin.carryOut (body call) = .error e →
    ∃ argument found, e = call.mismatch argument "scalar" found

namespace Call

variable {call : Call} {argument : String} {e : InstructionError}

theorem scalar_error {v : Value} (h : call.scalar argument v = .error e) :
    ∃ found, e = call.mismatch argument "scalar" found := by
  simp only [scalar] at h
  split at h
  · cases h
  · exact ⟨v, (Except.error.inj h).symm⟩

theorem scalars_error {items : List Value} (h : call.scalars argument items = .error e) :
    ∃ found, e = call.mismatch argument "scalar" found := by
  induction items with
  | nil => cases h
  | cons v rest ih =>
      simp only [scalars] at h
      cases hv : call.scalar argument v with
      | error e' =>
          rw [hv] at h
          cases h
          exact scalar_error hv
      | ok s =>
          rw [hv] at h
          exact ih (Results.error_of_map h)

/-- Of a sequence whose items are all written, nothing else can fail. -/
theorem scalarItems_error {make : List String → String}
    (hvalue : call.value.shape? = some .sequence)
    (h : (call.sequence.bind fun items =>
      (call.scalars argument items).bind fun texts => .ok (make texts)) = .error e) :
    ∃ found, e = call.mismatch argument "scalar" found := by
  obtain ⟨items, hitems⟩ := Value.shape?_eq_sequence hvalue
  simp only [sequence, hitems, Except.bind] at h
  rcases Results.error_of_bind h with htexts | ⟨texts, -, hmade⟩
  · exact scalars_error htexts
  · cases hmade

theorem scalarPairs_error {entries : List (String × Value)}
    (h : call.scalarPairs entries = .error e) :
    ∃ argument found, e = call.mismatch argument "scalar" found := by
  induction entries with
  | nil => cases h
  | cons entry rest ih =>
      obtain ⟨key, v⟩ := entry
      simp only [scalarPairs] at h
      cases hv : call.scalar key v with
      | error e' =>
          rw [hv] at h
          cases h
          exact ⟨key, scalar_error hv⟩
      | ok s =>
          rw [hv] at h
          exact ih (Results.error_of_map h)

theorem optionalScalar_error {given : Option Value}
    (h : call.optionalScalar argument given = .error e) :
    ∃ found, e = call.mismatch argument "scalar" found := by
  cases given with
  | none => cases h
  | some v => exact scalar_error (Results.error_of_map h)

theorem flags_error {options : Option Value} (h : Body.flags call options = .error e) :
    ∃ argument found, e = call.mismatch argument "scalar" found := by
  unfold Body.flags at h
  split at h
  · exact scalarPairs_error (Results.error_of_map h)
  · cases h

end Call

namespace Body

variable {call : Call}

theorem failsAtScalars_of_makes {body : Body}
    (h : ∃ text, builtin.carryOut (body call) = .ok text) : body.FailsAtScalars call := by
  obtain ⟨text, htext⟩ := h
  intro e he
  rw [htext] at he
  cases he

theorem failsAtScalars_verbatim (h : call.value.shape? = some .string) :
    Body.verbatim.FailsAtScalars call := by
  obtain ⟨s, hs⟩ := Value.shape?_eq_string h
  exact failsAtScalars_of_makes (makes_verbatim hs)

theorem failsAtScalars_wordArray (h : call.value.shape? = some .string) :
    Body.wordArray.FailsAtScalars call := by
  obtain ⟨s, hs⟩ := Value.shape?_eq_string h
  exact failsAtScalars_of_makes (makes_wordArray hs)

theorem failsAtScalars_decimal (h : call.value.shape? = some .integer) :
    Body.decimal.FailsAtScalars call := by
  obtain ⟨n, hn⟩ := Value.shape?_eq_integer h
  refine failsAtScalars_of_makes ⟨Decimal.integerText n.toInt, ?_⟩
  simp [decimal, carryOut_pure, Call.integer, hn, Except.map]

theorem failsAtScalars_execSequence (h : call.value.shape? = some .sequence) :
    Body.execSequence.FailsAtScalars call := by
  obtain ⟨items, hitems⟩ := Value.shape?_eq_sequence h
  exact failsAtScalars_of_makes ((makes_execSequence hitems).mpr trivial)

theorem failsAtScalars_execMapping (h : call.value.shape? = some .mapping) :
    Body.execMapping.FailsAtScalars call := by
  obtain ⟨m, hm⟩ := Value.shape?_eq_mapping h
  exact failsAtScalars_of_makes ⟨_, by
    simp [execMapping, carryOut_pure, Call.mapping, hm, Except.map]; rfl⟩

theorem failsAtScalars_quotedLines (h : call.value.shape? = some .sequence) :
    Body.quotedLines.FailsAtScalars call :=
  fun _ he => ⟨"command", Call.scalarItems_error h he⟩

theorem failsAtScalars_spaceSeparated (h : call.value.shape? = some .sequence) :
    Body.spaceSeparated.FailsAtScalars call :=
  fun _ he => ⟨"ports", Call.scalarItems_error h he⟩

theorem failsAtScalars_keyValueLines (h : call.value.shape? = some .mapping) :
    Body.keyValueLines.FailsAtScalars call := by
  obtain ⟨m, hm⟩ := Value.shape?_eq_mapping h
  intro e he
  have hread : call.mapping = .ok m := by rw [Call.mapping, hm]
  rcases Results.error_of_bind he with hmapping | ⟨m, -, hmade⟩
  · rw [hread] at hmapping
    cases hmapping
  · rcases Results.error_of_bind hmade with hpairs | ⟨pairs, -, hmade⟩
    · exact Call.scalarPairs_error hpairs
    · cases hmade

theorem failsAtScalars_imageMapping (h : call.value.shape? = some .mapping) :
    Body.imageMapping.FailsAtScalars call := by
  obtain ⟨m, hm⟩ := Value.shape?_eq_mapping h
  intro e he
  simp only [carryOut_imageMapping, Call.mapping, hm, Except.bind] at he
  exact ⟨"tag", Call.optionalScalar_error (Results.error_of_map he)⟩

theorem failsAtScalars_argumentMapping {key : String} {v : Value}
    (h : call.value = .mapping ⟨[(key, v)]⟩) : Body.argumentMapping.FailsAtScalars call := by
  intro e he
  simp only [carryOut_argumentMapping, Call.onlyEntry, Call.mapping, h, Mapping.first?,
    List.head?_cons, Except.bind] at he
  exact ⟨key, Call.optionalScalar_error (Results.error_of_map he)⟩

end Body

/-! ## Kind by kind -/

/-- Behind the constraints the handler fails by an error of its body, or of an inner
instruction. -/
def Handler.TracesFailures (h : Handler) (v : Value) : Prop :=
  v.shape? = some h.shape → ∀ captures, h.validate v = .ok captures →
    ∀ e, builtin.carryOut (h.body (h.callFor v captures)) = .error e →
      BodyError h.instruction v e ∨ InnerFailure h.instruction v e

section Handlers

variable {h : Handler} {v : Value} {argument : String} {body : Body}

theorem tracesFailures_of_call (hb : h.body = body)
    (hbody : v.shape? = some h.shape → ∀ captures, h.validate v = .ok captures →
      body.FailsAtScalars (h.callFor v captures)) : h.TracesFailures v := by
  intro hv captures hvalid e herror
  rw [hb] at herror
  obtain ⟨argument, found, rfl⟩ := hbody hv captures hvalid e herror
  exact .inl .notScalar

/-- Most bodies need to know no more than the shape of their argument. -/
theorem tracesFailures_of_shape {shape : Shape} (hs : h.shape = shape) (hb : h.body = body)
    (hbody : ∀ call : Call, call.value.shape? = some shape → body.FailsAtScalars call) :
    h.TracesFailures v :=
  tracesFailures_of_call hb fun hv captures _ => hbody (h.callFor v captures) (hs ▸ hv)

/-- Behind a pattern there are captures for the body. -/
theorem tracesFailures_of_pattern {form : Pattern}
    (hc : h.constraints = [.required argument .string, .pattern argument form]) (hb : h.body = body)
    (hbody : ∀ call : Call, call.captures.isSome = true →
      ∃ text, builtin.carryOut (body call) = .ok text) : h.TracesFailures v := by
  refine tracesFailures_of_call hb fun _ captures hvalid => Body.failsAtScalars_of_makes ?_
  have hsome : captures.isSome = true := by
    rw [Constraint.isSome_of_applyAll hvalid, hc]
    rfl
  exact hbody (h.callFor v captures) hsome

theorem tracesFailures_argumentMapping (hs : h.shape = .mapping)
    (hc : h.constraints = [.members argument 1]) (hb : h.body = .argumentMapping) :
    h.TracesFailures v := by
  refine tracesFailures_of_call hb fun hv captures hvalid => ?_
  obtain ⟨key, inner, rfl⟩ := entry_of_members hs hc hv hvalid
  exact Body.failsAtScalars_argumentMapping rfl

theorem tracesFailures_trigger (hname : h.instruction = "ONBUILD") (hs : h.shape = .mapping)
    (hc : h.constraints = [.members argument 1]) (hb : h.body = .trigger) :
    h.TracesFailures v := by
  intro hv captures hvalid e herror
  obtain ⟨key, inner, rfl⟩ := entry_of_members hs hc hv hvalid
  simp only [hb, carryOut_trigger, Call.onlyEntry, Call.mapping, Handler.callFor, Mapping.first?,
    List.head?_cons, Except.bind] at herror
  split at herror
  · rename_i hnest
    cases herror
    exact .inl (.notNestable hname rfl hnest)
  · rename_i hnest
    exact .inr (.ofTrigger hname rfl hnest herror)

theorem tracesFailures_healthcheck (hname : h.instruction = "HEALTHCHECK")
    (hs : h.shape = .mapping)
    (hc : h.constraints =
      [.requiredKey "cmd" [.string, .sequence, .mapping], .optionalKey "options" [.mapping] none])
    (hb : h.body = .healthcheck) : h.TracesFailures v := by
  intro hv captures hvalid e herror
  rw [hs] at hv
  obtain ⟨m, rfl⟩ := Value.shape?_eq_mapping hv
  rw [validate_eq _ hc, Constraint.applyAll_cons_iff] at hvalid
  obtain ⟨between, hcommand, -⟩ := hvalid
  obtain ⟨⟨command, hget, hkind⟩, -⟩ := (Constraint.apply_requiredKey (by decide)).mp hcommand
  simp only [hb, carryOut_healthcheck, Call.mapping, Handler.callFor, Except.bind, hget] at herror
  split at herror
  · rename_i hflags
    cases herror
    obtain ⟨argument, found, rfl⟩ := Call.flags_error hflags
    exact .inl .notScalar
  · exact .inr (.ofCommand hname rfl hget hkind (Results.error_of_map herror))

/-- No built-in handler fails in another way. -/
theorem builtinHandlers_traceFailures : ∀ h ∈ builtinHandlers, h.TracesFailures v := by
  intro h hmem
  have hinstruction := builtinHandlers_instruction h hmem
  cases builtinHandlers_kind h hmem with
  | verbatim hs _ hb => exact tracesFailures_of_shape hs hb fun _ => Body.failsAtScalars_verbatim
  | wordArray hs _ hb => exact tracesFailures_of_shape hs hb fun _ => Body.failsAtScalars_wordArray
  | imageText _ hc hb => exact tracesFailures_of_pattern hc hb fun _ => makes_imageText
  | argumentText _ hc hb => exact tracesFailures_of_pattern hc hb fun _ => makes_argumentText
  | requiredInteger hs _ hb | bounds hs _ hb =>
      exact tracesFailures_of_shape hs hb fun _ => Body.failsAtScalars_decimal
  | execSequence hs _ hb =>
      exact tracesFailures_of_shape hs hb fun _ => Body.failsAtScalars_execSequence
  | quotedLines hs _ hb =>
      exact tracesFailures_of_shape hs hb fun _ => Body.failsAtScalars_quotedLines
  | spaceSeparated hs _ hb =>
      exact tracesFailures_of_shape hs hb fun _ => Body.failsAtScalars_spaceSeparated
  | execMapping hs _ hb =>
      exact tracesFailures_of_shape hs hb fun _ => Body.failsAtScalars_execMapping
  | pairs hs _ hb => exact tracesFailures_of_shape hs hb fun _ => Body.failsAtScalars_keyValueLines
  | imageMapping hs _ hb =>
      exact tracesFailures_of_shape hs hb fun _ => Body.failsAtScalars_imageMapping
  | argumentMapping hs hc hb => exact tracesFailures_argumentMapping hs hc hb
  | trigger hname hs hc hb => exact tracesFailures_trigger (hinstruction.trans hname) hs hc hb
  | noHealthcheck hs _ hb =>
      exact tracesFailures_of_shape hs hb fun _ _ => Body.failsAtScalars_of_makes ⟨"", rfl⟩
  | healthcheck hname hs hc hb =>
      exact tracesFailures_healthcheck (hinstruction.trans hname) hs hc hb

end Handlers

/-! ## Conversions -/

section Lines

variable {name : String} {v : Value} {e : InstructionError}

theorem Converter.builtin_lookup_error {shape : Shape}
    (h : builtin.table.lookup name shape = .error e) :
    e = .noHandler (Text.asciiUpper name) shape ∧
      HandlerKey.of name shape ∉ builtinHandlers.map Handler.key := by
  refine ⟨HandlerTable.error_of_lookup h, fun hmem => ?_⟩
  obtain ⟨g, hg, hkey⟩ := List.mem_map.mp hmem
  have hname : g.name = Text.asciiUpper name := by
    rw [← builtinHandlers_instruction g hg]
    exact congrArg HandlerKey.instruction hkey
  have hfound : builtin.table.lookup name shape = .ok g :=
    builtin_lookup_iff.mpr ⟨hg, hname, congrArg HandlerKey.shape hkey⟩
  rw [hfound] at h
  cases h

/-- A failure is raised for the instruction at hand, or is that of the one inside it. -/
theorem raised_or_inner_of_line (h : builtin.line name v = .error e) :
    Raised (Text.asciiUpper name) v e ∨ InnerFailure (Text.asciiUpper name) v e := by
  -- shape, handler, constraints, body: each of these steps may be the first to fail
  rw [line_eq] at h
  cases hshape : v.shape? with
  | none =>
      simp only [Value.dispatchShape, hshape] at h
      cases h
      exact .inl (.noShape hshape)
  | some shape =>
      simp only [Value.dispatchShape, hshape] at h
      cases hlookup : builtin.table.lookup name shape with
      | error e' =>
          simp only [hlookup] at h
          cases h
          obtain ⟨rfl, hmissing⟩ := builtin_lookup_error hlookup
          exact .inl (.noHandler hshape hmissing)
      | ok g =>
          simp only [hlookup] at h
          obtain ⟨hmem, hname, rfl⟩ := builtin_lookup_iff.mp hlookup
          rw [← hname, ← builtinHandlers_instruction g hmem]
          cases hvalid : g.validate v with
          | error e' =>
              simp only [hvalid] at h
              cases h
              obtain ⟨c, hc, refusal⟩ := Constraint.refusal_of_applyAll hvalid
              exact .inl (.refused hmem rfl hshape hc refusal)
          | ok captures =>
              simp only [hvalid] at h
              cases hbody : builtin.carryOut (g.body (g.callFor v captures)) with
              | ok text => rw [hbody] at h; cases h
              | error e' =>
                  rw [hbody] at h
                  cases h
                  have places := builtinHandlers_traceFailures g hmem hshape captures hvalid _ hbody
                  exact places.imp_left .inBody

/-- At some depth each failure is raised. -/
theorem raised_of_line (h : builtin.line name v = .error e) :
    ∃ instruction w, Raised instruction w e := by
  -- the induction is on the depth of the argument, since inner failures come out unchanged
  induction hd : v.depth using Nat.strongRecOn generalizing name v with
  | ind depth ih =>
      rcases raised_or_inner_of_line h with raised | inner
      · exact ⟨_, _, raised⟩
      · cases inner with
        | @ofTrigger key w _ hv _ hline =>
            subst hv
            exact ih _ (hd ▸ Value.depth_lt_of_first? (m := ⟨[(key, w)]⟩) rfl) hline rfl
        | ofCommand _ hv hget _ hline =>
            subst hv
            exact ih _ (hd ▸ Value.depth_lt_of_get? hget) hline rfl

end Lines

/-! ## Attribution -/

/-- The error says that an argument is missing or of the wrong kind. -/
def InstructionError.asksForArgument : InstructionError → Bool
  | .argumentMissing _ _ _ | .argumentType _ _ _ _ => true
  | _ => false

/-- The constraint wants something to be there and of a shape, and nothing else. -/
def Constraint.asksOnlyForArgument : Constraint → Bool
  | .required _ _ | .requiredKey _ _ | .optionalKey _ _ none => true
  | _ => false

/-- What the failure of a conversion says about its origin. -/
structure Attributed (name : String) (v : Value) (e : InstructionError) : Prop where
  /-- Handlers and objects are in order. -/
  noDefinition : ∀ instruction fault, e ≠ .definition instruction fault
  noMalformed : ∀ reason, e ≠ .malformed reason
  /-- The error names the instruction, or it is the error of the instruction inside, which for a
  health check is about a missing or mistyped argument. -/
  origin : e.instruction? = some (Text.asciiUpper name) ∨
    InnerFailure (Text.asciiUpper name) v e ∧
      (Text.asciiUpper name = "HEALTHCHECK" → e.asksForArgument = true)
  /-- Without a shape are booleans and floats, whatever the name is. -/
  noShape : Text.asciiUpper name ≠ "ONBUILD" →
    ((∃ instruction kind, e = .noShape instruction kind) ↔
      (∃ b, v = .bool b) ∨ ∃ x, v = .float x)
  /-- Without a handler are the names and shapes that are not on the list. -/
  noHandler : Text.asciiUpper name ≠ "ONBUILD" →
    ((∃ instruction shape, e = .noHandler instruction shape) ↔
      ∃ shape, v.shape? = some shape ∧
        HandlerKey.of name shape ∉ builtinHandlers.map Handler.key)

section Attribution

variable {instruction usage name : String} {v : Value} {e : InstructionError} {c : Constraint}

theorem Constraint.Refusal.asksForArgument (h : c.Refusal instruction usage v e)
    (hc : c.asksOnlyForArgument = true) : e.asksForArgument = true := by
  cases h with
  | wrongKind => rfl
  | missing => rfl
  | keyMismatch _ _ _ hcheck => rw [checkShapes_error hcheck]; rfl
  | exclusive heq => subst heq; cases hc
  | outOfBounds heq => subst heq; cases hc
  | noMatch heq => subst heq; cases hc
  | wrongLength heq => subst heq; cases hc

theorem Value.shape?_eq_none_iff {v : Value} :
    v.shape? = none ↔ (∃ b, v = .bool b) ∨ ∃ x, v = .float x := by
  cases v <;> simp [Value.shape?]

namespace Raised

theorem instruction? (h : Raised instruction v e) : e.instruction? = some instruction := by
  cases h with
  | noShape => rfl
  | noHandler => rfl
  | refused _ _ _ _ refusal => exact refusal.names.1
  | inBody h => cases h <;> rfl

theorem ne_malformed (h : Raised instruction v e) (reason : MalformedObject) :
    e ≠ .malformed reason := by
  rintro rfl
  cases h.instruction?

theorem ne_definition (h : Raised instruction v e) (i : String) (fault : DefinitionFault) :
    e ≠ .definition i fault := by
  rintro rfl
  cases h with
  | refused _ _ _ _ refusal => cases refusal.names.2
  | inBody h => cases h

theorem shape?_of_noShape {i kind : String} (h : Raised instruction v (.noShape i kind)) :
    v.shape? = none := by
  cases h with
  | noShape hshape => exact hshape
  | refused _ _ _ _ refusal => cases refusal.names.2
  | inBody h => cases h

theorem missing_of_noHandler {i : String} {shape : Shape}
    (h : Raised instruction v (.noHandler i shape)) :
    v.shape? = some shape ∧ ⟨instruction, shape⟩ ∉ builtinHandlers.map Handler.key := by
  cases h with
  | noHandler hshape hmissing => exact ⟨hshape, hmissing⟩
  | refused _ _ _ _ refusal => cases refusal.names.2
  | inBody h => cases h

end Raised

/-- A command of one of the three shapes has a handler, whose constraints ask only for arguments. -/
theorem asksForArgument_of_command {command : Value}
    (hkind : command.HasShape [.string, .sequence, .mapping])
    (h : builtin.line "CMD" command = .error e) : e.asksForArgument = true := by
  obtain ⟨shape, hmem, hshape⟩ := hkind
  have hname : Text.asciiUpper "CMD" = "CMD" := by decide
  have hhandled : ∀ shape ∈ [Shape.string, .sequence, .mapping],
      ⟨"CMD", shape⟩ ∈ builtinHandlers.map Handler.key := by decide
  have hconstraints : ∀ g ∈ builtinHandlers, g.name = "CMD" →
      ∀ c ∈ g.constraints, c.asksOnlyForArgument = true := by decide
  have places := raised_or_inner_of_line h
  rw [hname] at places
  -- no instruction stands inside a command, so the error is one of its own
  rcases places with raised | inner
  · cases raised with
    | noShape hnone => rw [hnone] at hshape; cases hshape
    | noHandler hother hmissing =>
        rw [hother] at hshape
        cases hshape
        exact absurd (hhandled shape hmem) hmissing
    | refused hg hcmd _ hc refusal =>
        rw [builtinHandlers_instruction _ hg] at hcmd
        exact refusal.asksForArgument (hconstraints _ hg hcmd _ hc)
    | inBody hbody =>
        cases hbody with
        | notScalar => rfl
        | notNestable honbuild => exact absurd honbuild (by decide)
  · cases inner with
    | ofTrigger honbuild => exact absurd honbuild (by decide)
    | ofCommand hhealthcheck => exact absurd hhealthcheck (by decide)

theorem InnerFailure.asksForArgument (h : InnerFailure instruction v e)
    (hname : instruction ≠ "ONBUILD") : e.asksForArgument = true := by
  cases h with
  | ofTrigger honbuild => exact absurd honbuild hname
  | ofCommand _ _ _ hkind hline => exact asksForArgument_of_command hkind hline

theorem Converter.builtin_line_of_noShape (h : v.shape? = none) :
    builtin.line name v = .error (.noShape (Text.asciiUpper name) v.kind) := by
  rw [line_eq, Value.dispatchShape, h]

theorem Converter.builtin_line_of_noHandler {shape : Shape} (hshape : v.shape? = some shape)
    (hmissing : HandlerKey.of name shape ∉ builtinHandlers.map Handler.key) :
    builtin.line name v = .error (.noHandler (Text.asciiUpper name) shape) := by
  rw [line_eq]
  simp only [Value.dispatchShape, hshape]
  cases hlookup : builtin.table.lookup name shape with
  | error e => rw [(builtin_lookup_error hlookup).1]
  | ok g =>
      obtain ⟨hg, hname, rfl⟩ := builtin_lookup_iff.mp hlookup
      refine absurd (List.mem_map.mpr ⟨g, hg, ?_⟩) hmissing
      rw [Handler.key, HandlerKey.of, builtinHandlers_instruction g hg, hname]

/-- Every failure of a built-in instruction says where it comes from. -/
theorem builtin_failure_attributed (h : builtin.line name v = .error e) : Attributed name v e := by
  obtain ⟨instruction, w, hraised⟩ := raised_of_line h
  have places := raised_or_inner_of_line h
  refine ⟨hraised.ne_definition, hraised.ne_malformed, ?_, fun hname => ⟨?_, ?_⟩,
    fun hname => ⟨?_, ?_⟩⟩
  · refine places.imp Raised.instruction? fun inner => ⟨inner, fun hname => ?_⟩
    exact inner.asksForArgument (by rw [hname]; decide)
  · rintro ⟨i, kind, rfl⟩
    rcases places with raised | inner
    · exact Value.shape?_eq_none_iff.mp raised.shape?_of_noShape
    · cases inner.asksForArgument hname
  · intro hnone
    rw [builtin_line_of_noShape (Value.shape?_eq_none_iff.mpr hnone)] at h
    exact ⟨_, _, (Except.error.inj h).symm⟩
  · rintro ⟨i, shape, rfl⟩
    rcases places with raised | inner
    · exact ⟨shape, raised.missing_of_noHandler⟩
    · cases inner.asksForArgument hname
  · rintro ⟨shape, hshape, hmissing⟩
    rw [builtin_line_of_noHandler hshape hmissing] at h
    exact ⟨_, _, (Except.error.inj h).symm⟩

/-- A trigger for ports that are no list: the error is that of the ports. -/
theorem attributed_triggerOfPorts :
    builtin.line "onbuild" (.mapping ⟨[("expose", .mapping ⟨[("80", .string "tcp")]⟩)]⟩) =
        .error (.noHandler "EXPOSE" .mapping) ∧
      Attributed "onbuild" (.mapping ⟨[("expose", .mapping ⟨[("80", .string "tcp")]⟩)]⟩)
        (.noHandler "EXPOSE" .mapping) := by
  have hline : builtin.line "onbuild"
      (.mapping ⟨[("expose", .mapping ⟨[("80", .string "tcp")]⟩)]⟩) =
        .error (.noHandler "EXPOSE" .mapping) :=
    Results.eq_error_of_error? (by decide +kernel)
  exact ⟨hline, builtin_failure_attributed hline⟩

end Attribution

end ImageRecipe
