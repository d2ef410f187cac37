import ImageRecipe.Proofs.Instruction.Session

/-!
# Registering more

A new handler changes nothing for the conversions that did not miss it.  The tables before and
after a registration differ in one key, so that a conversion, with all the inner ones that it asks
for, ends alike in both unless it fails for want of that key.

* `builtinHandlers_propagate` : the built-in bodies never go on behind an inner failure
* `lookup_table_of_register` : the two tables, look-up by look-up
* `convert_of_register` : the two conversions
-/

namespace ImageRecipe

/-! ## Bodies that propagate -/

theorem Body.propagates_pure (f : Call → Except InstructionError String) (call : Call) :
    (Body.pure f call).Propagates := .done

theorem Body.propagates_trigger (call : Call) : (Body.trigger call).Propagates := by
  simp only [Body.trigger]
  split
  · exact .done
  · split
    · exact .done
    · exact .onLine fun _ => .done

theorem Body.propagates_healthcheck (call : Call) : (Body.healthcheck call).Propagates := by
  simp only [Body.healthcheck]
  split
  · exact .done
  · split
    · exact .done
    · split
      · exact .done
      · exact .onLine fun _ => .done

/-- A failure of an inner instruction is a failure of the built-in instruction around it. -/
theorem builtinHandlers_propagate :
    ∀ h ∈ builtinHandlers, ∀ call, (h.body call).Propagates :=
  builtinHandlers_bodies (P := fun body => ∀ call, (body call).Propagates)
    Body.propagates_pure Body.propagates_trigger Body.propagates_healthcheck

theorem Start.propagates (start : Start) :
    ∀ h ∈ start.registry.handlers, ∀ call, (h.body call).Propagates := by
  cases start with
  | empty => exact fun _ hh => nomatch hh
  | builtin => exact builtinHandlers_propagate

namespace Registry

/-! ## Before and after a registration -/

variable {r r' : Registry} {h : Handler}

/-- The tables differ in one look-up at most, which fails before the registration. -/
theorem lookup_table_of_register (coherent : r.Coherent) (hr : r.register h = .ok r')
    (name : String) (shape : Shape) :
    r'.table.1.lookup name shape = r.table.1.lookup name shape ∨
      HandlerKey.of name shape = h.key ∧
        r.table.1.lookup name shape = .error (.noHandler h.instruction h.shape) := by
  have coherent' := coherent.register hr
  have hfind := @Coherent.find?_table_iff _ coherent _ coherent.table_handlers (.of name shape)
  have hfind' := @Coherent.find?_table_iff _ coherent' _ coherent'.table_handlers (.of name shape)
  obtain ⟨new, hr'⟩ := registered_of_register hr
  have hhandlers : r'.handlers = r.handlers ++ [h] := by rw [hr']
  by_cases hkey : HandlerKey.of name shape = h.key
  · have hnone : r.table.1.find? (.of name shape) = none := by
      refine Option.eq_none_iff_forall_ne_some.mpr fun g hg => ?_
      obtain ⟨hmem, hg⟩ := hfind.mp hg
      exact new g hmem (hg.trans hkey)
    have hname : Text.asciiUpper name = h.instruction := congrArg HandlerKey.instruction hkey
    have hshape : shape = h.shape := congrArg HandlerKey.shape hkey
    refine .inr ⟨hkey, ?_⟩
    rw [HandlerTable.lookup, hnone, hname, hshape]
  · refine .inl ?_
    rw [HandlerTable.lookup, HandlerTable.lookup]
    have hsame : r'.table.1.find? (.of name shape) = r.table.1.find? (.of name shape) := by
      refine Option.ext fun g => ?_
      rw [hfind', hfind, hhandlers, List.mem_append, List.mem_singleton]
      constructor
      · rintro ⟨hmem | rfl, hg⟩
        · exact ⟨hmem, hg⟩
        · exact absurd hg.symm hkey
      · rintro ⟨hmem, hg⟩
        exact ⟨.inl hmem, hg⟩
    rw [hsame]

/-- A conversion that does not fail for want of the new handler ends as it did before. -/
theorem convert_of_coherent (coherent : r.Coherent)
    (propagate : ∀ g ∈ r.handlers, ∀ call, (g.body call).Propagates)
    (hr : r.register h = .ok r') {depth : Nat} {object : Value}
    {outcome : Except InstructionError String}
    (hline : (r.convert depth object).1 = some outcome)
    (other : outcome ≠ .error (.noHandler h.instruction h.shape)) :
    (r'.convert depth object).1 = some outcome := by
  rw [convert_fst, HandlerTable.convert?] at hline ⊢
  cases hobject : object.asInstruction with
  | error e => simpa [hobject] using hline
  | ok pair =>
      simp only [hobject] at hline ⊢
      have propagate' : ∀ g ∈ r.table.1.handlers, ∀ call, (g.body call).Propagates := by
        intro g hg
        rw [coherent.table_handlers] at hg
        exact propagate g (HandlerTable.mem_of_mem_sort hg)
      have agree : ∀ name shape, r'.table.1.lookup name shape = r.table.1.lookup name shape ∨
          ∃ e, e = .noHandler h.instruction h.shape ∧
            r.table.1.lookup name shape = .error e := by
        intro name shape
        rcases lookup_table_of_register coherent hr name shape with hsame | ⟨-, hnone⟩
        · exact .inl hsame
        · exact .inr ⟨_, rfl, hnone⟩
      refine HandlerTable.line?_of_agree agree (fun _ => propagate') hline ?_
      rintro e rfl
      exact other

end Registry

/-- Registering a handler is conservative.  In any registry that a session reaches with handlers
that propagate inner failures, a successful registration leaves every conversion as it was, at
whatever depth it looks handlers up, but for those that failed because the new handler was not
there. -/
theorem convert_of_register (start : Start) (requests : List Request)
    (propagate : ∀ g ∈ start.registry.added requests, ∀ call, (g.body call).Propagates)
    {h : Handler} {r' : Registry} (hr : (start.registry.after requests).register h = .ok r')
    {depth : Nat} {object : Value} {outcome : Except InstructionError String}
    (hline : ((start.registry.after requests).convert depth object).1 = some outcome)
    (other : outcome ≠ .error (.noHandler h.instruction h.shape)) :
    (r'.convert depth object).1 = some outcome := by
  refine Registry.convert_of_coherent (start.coherent.after requests) ?_ hr hline other
  intro g hg
  rw [Registry.after_handlers] at hg
  rcases List.mem_append.mp hg with hstart | hadded
  · exact start.propagates g hstart
  · exact propagate g hadded

/-! ### A session with two handlers of its own -/

/-- A handler for an instruction that is not built in. -/
def maintainerHandler : Handler := stringHandler "maintainer" "<name>" "name" .verbatim

/-- A handler for another form of a built-in instruction. -/
def labelHandler : Handler := stringHandler "label" "<key>=<value>" "labels" .verbatim

/-- The first one's instruction inside a trigger. -/
def maintainerTrigger : Value :=
  .mapping ⟨[("onbuild", .mapping ⟨[("Maintainer", .string "me")]⟩)]⟩

theorem convert?_maintainerTrigger {t : HandlerTable}
    (houter : t.lookup "onbuild" .mapping = .ok triggerHandler)
    (hinner : t.lookup "Maintainer" .string = .ok maintainerHandler) :
    t.convert? 1 maintainerTrigger = some (.ok "ONBUILD MAINTAINER me") := by
  have hline : t.line? 0 "Maintainer" (.string "me") = some (.ok "MAINTAINER me") :=
    HandlerTable.lineBy_of_handler rfl hinner rfl rfl
  have hbody : (triggerHandler.body (triggerHandler.callFor
      (.mapping ⟨[("Maintainer", .string "me")]⟩) none)).outcome? (t.line? 0) =
        some (.ok "MAINTAINER me") := by
    rw [show triggerHandler.body _ = .onLine "Maintainer" (.string "me") .text from rfl,
      Plan.onLine, Plan.outcome?, hline]
    rfl
  exact HandlerTable.lineBy_of_handler rfl houter rfl hbody

/-- The second handler comes after the first one and a look-up, and the trigger stays as it is. -/
theorem convert_of_register_label :
    ∃ r', (Start.builtin.registry.after
        [.register maintainerHandler, .lookup "from" .string]).register labelHandler = .ok r' ∧
      (r'.convert 1 maintainerTrigger).1 = some (.ok "ONBUILD MAINTAINER me") := by
  have coherent :=
    Start.builtin.coherent.after [.register maintainerHandler, .lookup "from" .string]
  have handlers : (Start.builtin.registry.after
      [.register maintainerHandler, .lookup "from" .string]).handlers =
        builtinHandlers ++ [maintainerHandler] := rfl
  have trigger : triggerHandler ∈ builtinHandlers := List.mem_append_right _ List.mem_cons_self
  obtain ⟨r', hr⟩ : ∃ r', (Start.builtin.registry.after
      [.register maintainerHandler, .lookup "from" .string]).register labelHandler = .ok r' :=
    ⟨_, rfl⟩
  refine ⟨r', hr, convert_of_register .builtin _ ?_ hr ?_ ?_⟩
  · have added : Start.builtin.registry.added
        [.register maintainerHandler, .lookup "from" .string] = [maintainerHandler] := rfl
    intro g hg call
    rw [added, List.mem_singleton] at hg
    rw [hg]
    exact .done
  · have houter := coherent.lookup_table (handlers ▸ List.mem_append_left _ trigger)
      (show triggerHandler.key = .of "onbuild" .mapping by decide)
    have hinner := coherent.lookup_table (handlers ▸ List.mem_append_right _ List.mem_cons_self)
      (show maintainerHandler.key = .of "Maintainer" .string by decide)
    rw [Registry.convert_fst]
    exact convert?_maintainerTrigger houter hinner
  · exact fun h => nomatch h

end ImageRecipe
