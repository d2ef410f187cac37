import ImageRecipe.Proofs.Instruction.HealthCheck
import ImageRecipe.Proofs.Instruction.Kind
import ImageRecipe.Proofs.Mapping

/-!
# Instructions inside instructions

Two of the built-in instructions take another one inside.  A trigger is the line inside behind its
own name; a health check has the line of its command behind the flags of its options.  Neither can
stand inside a trigger and a command takes nothing inside, so that a conversion comes to one inner
conversion at the most.

* `Plan.calls`, `Converter.innerCalls` : the inner conversions of a body, and of a conversion
* `Converter.innerCalls_builtin` : there is one at the most, of a value in the argument
* `line_trigger` : the line or the error of a trigger
* `nested_lines_transparent` : this, the line of a health check, and the order of its errors
-/

namespace ImageRecipe

open Converter (builtin)

/-! ## Inner conversions -/

/-- The inner conversions that a plan asks for, given how they end. -/
def Plan.calls (line : String → Value → Except InstructionError String) :
    Plan → List (String × Value)
  | .done _ => []
  | .nested name inner resume => (name, inner) :: (resume (line name inner)).calls line

/-- What goes on only to write the line asks for nothing else. -/
theorem Plan.calls_onLine {line : String → Value → Except InstructionError String}
    {name : String} {inner : Value} {resume : String → Plan}
    (h : ∀ s, (resume s).calls line = []) :
    (Plan.onLine name inner resume).calls line = [(name, inner)] := by
  simp only [onLine, calls]
  cases line name inner with
  | ok s => simp only [h s]
  | error e => rfl

namespace Converter

variable {c : Converter} {name : String} {v : Value}

/-- The handler that dispatch and constraints come to, and the plan of its body. -/
def reach (c : Converter) (name : String) (v : Value) : Except InstructionError (Handler × Plan) :=
  match v.dispatchShape name with
  | .error e => .error e
  | .ok shape =>
    match c.table.lookup name shape with
    | .error e => .error e
    | .ok h => (h.validate v).map fun captures => (h, h.body (h.callFor v captures))

/-- A conversion carries out the plan that it comes to. -/
theorem line_eq_reach :
    c.line name v =
      (c.reach name v).bind fun reached => (c.carryOut reached.2).map reached.1.lineOf := by
  rw [line_eq, reach]
  cases v.dispatchShape name with
  | error e => rfl
  | ok shape =>
      simp only
      cases hlookup : c.table.lookup name shape with
      | error e => rfl
      | ok h =>
          simp only
          cases h.validate v with
          | error e => rfl
          | ok captures => rfl

/-- The inner conversions of a conversion, each followed by those inside it, down to a depth. -/
def innerCalls (c : Converter) : Nat → String → Value → List (String × Value)
  | 0, _, _ => []
  | depth + 1, name, v =>
    match c.reach name v with
    | .error _ => []
    | .ok (_, plan) =>
      (plan.calls c.line).flatMap fun call => call :: c.innerCalls depth call.1 call.2

/-- A body of a built-in handler asks for nothing, or for one line of something in its argument;
only two handlers do so, and they ask for the lines of others. -/
theorem calls_body {h : Handler} {captures : Option Captures} (hmem : h ∈ builtinHandlers)
    (hshape : v.shape? = some h.shape) (hvalid : h.validate v = .ok captures)
    (line : String → Value → Except InstructionError String) :
    (h.body (h.callFor v captures)).calls line = [] ∨
      h.name ∈ Body.notNestable ∧ ∃ inner w m key, v = .mapping m ∧ (key, w) ∈ m.entries ∧
        Text.asciiUpper inner ∉ Body.notNestable ∧
          (h.body (h.callFor v captures)).calls line = [(inner, w)] := by
  -- of the sixteen kinds only two have a plan that goes on behind an inner line
  cases builtinHandlers_kind h hmem with
  | trigger hname hs hc hb =>
      obtain ⟨key, w, rfl⟩ := entry_of_members hs hc hshape hvalid
      rw [hb]
      by_cases hnest : Text.asciiUpper key ∈ Body.notNestable
      · left
        simp [Body.trigger, Call.onlyEntry, Call.mapping, Handler.callFor, Mapping.first?, hnest,
          Plan.fail, Plan.calls]
      · right
        refine ⟨by rw [hname]; decide, key, w, _, key, rfl, List.mem_cons_self, hnest, ?_⟩
        simp only [Body.trigger, Call.onlyEntry, Call.mapping, Handler.callFor, Mapping.first?,
          List.head?_cons, if_neg hnest]
        exact Plan.calls_onLine fun s => rfl
  | healthcheck hname hs hc hb =>
      rw [hs] at hshape
      obtain ⟨m, rfl⟩ := Value.shape?_eq_mapping hshape
      rw [hb]
      simp only [Body.healthcheck, Call.mapping, Handler.callFor]
      split
      · exact .inl rfl
      · split
        · exact .inl rfl
        · rename_i command hcommand
          right
          refine ⟨by rw [hname]; decide, "CMD", command, m, "cmd", rfl,
            Mapping.mem_of_get? hcommand, by decide, ?_⟩
          exact Plan.calls_onLine fun s => rfl
  | verbatim _ _ hb | wordArray _ _ hb | imageText _ _ hb | argumentText _ _ hb
  | requiredInteger _ _ hb | bounds _ _ hb | execSequence _ _ hb | quotedLines _ _ hb
  | spaceSeparated _ _ hb | execMapping _ _ hb | pairs _ _ hb | imageMapping _ _ hb
  | argumentMapping _ _ hb | noHealthcheck _ _ hb =>
      left
      rw [hb]
      rfl

/-- What a built-in conversion comes to, if it comes to a body. -/
theorem builtin_reach_eq_ok {h : Handler} {plan : Plan}
    (hreach : builtin.reach name v = .ok (h, plan)) :
    h ∈ builtinHandlers ∧ h.name = Text.asciiUpper name ∧ v.shape? = some h.shape ∧
      ∃ captures, h.validate v = .ok captures ∧ plan = h.body (h.callFor v captures) := by
  cases hshape : v.shape? with
  | none =>
      rw [reach, Value.dispatchShape, hshape] at hreach
      cases hreach
  | some shape =>
      simp only [reach, Value.dispatchShape, hshape] at hreach
      cases hlookup : builtin.table.lookup name shape with
      | error e => rw [hlookup] at hreach; cases hreach
      | ok g =>
          rw [hlookup] at hreach
          obtain ⟨captures, hvalid, heq⟩ := Results.of_map hreach
          cases heq
          obtain ⟨hmem, hname, hs⟩ := builtin_lookup_iff.mp hlookup
          exact ⟨hmem, hname, congrArg some hs.symm, captures, hvalid, rfl⟩

/-- What may stand inside a trigger asks for no lines. -/
theorem innerCalls_of_nestable (hname : Text.asciiUpper name ∉ Body.notNestable) (depth : Nat)
    (v : Value) : builtin.innerCalls depth name v = [] := by
  cases depth with
  | zero => rfl
  | succ depth =>
      cases hreach : builtin.reach name v with
      | error e => simp only [innerCalls, hreach]
      | ok reached =>
          obtain ⟨h, plan⟩ := reached
          obtain ⟨hmem, hown, hshape, captures, hvalid, rfl⟩ := builtin_reach_eq_ok hreach
          simp only [innerCalls, hreach]
          -- only the two handlers that cannot be nested ask for lines
          rcases calls_body hmem hshape hvalid builtin.line with hnone | ⟨hnest, -⟩
          · rw [hnone, List.flatMap_nil]
          · rw [hown] at hnest
            exact absurd hnest hname

/-- However deep one looks, there is one inner conversion at the most, of a value in the
argument. -/
theorem innerCalls_builtin (depth : Nat) (name : String) (v : Value) :
    builtin.innerCalls depth name v = [] ∨
      ∃ inner w m key, v = .mapping m ∧ (key, w) ∈ m.entries ∧
        builtin.innerCalls depth name v = [(inner, w)] := by
  cases depth with
  | zero => exact .inl rfl
  | succ depth =>
      cases hreach : builtin.reach name v with
      | error e =>
          left
          simp only [innerCalls, hreach]
      | ok reached =>
          obtain ⟨h, plan⟩ := reached
          obtain ⟨hmem, -, hshape, captures, hvalid, rfl⟩ := builtin_reach_eq_ok hreach
          simp only [innerCalls, hreach]
          rcases calls_body hmem hshape hvalid builtin.line with
            hnone | ⟨-, inner, w, m, key, hv, hentry, hinner, hone⟩
          · left
            rw [hnone, List.flatMap_nil]
          · right
            refine ⟨inner, w, m, key, hv, hentry, ?_⟩
            -- what is asked for can be nested, so it asks for nothing itself
            rw [hone, List.flatMap_cons, List.flatMap_nil, List.append_nil,
              innerCalls_of_nestable hinner]

end Converter

/-! ## Triggers -/

theorem triggerHandler_mem : triggerHandler ∈ builtinHandlers :=
  List.mem_append_right _ List.mem_cons_self

/-- A trigger has the line of the instruction inside behind its own name, or the error of that. -/
theorem line_trigger {name : String} (hname : Text.asciiUpper name = "ONBUILD") (key : String)
    (w : Value) :
    builtin.line name (.mapping ⟨[(key, w)]⟩) =
      if Text.asciiUpper key = "ONBUILD" ∨ Text.asciiUpper key = "HEALTHCHECK" then
        .error (.notNestable "ONBUILD" (Text.asciiUpper key))
      else (builtin.line key w).map ("ONBUILD " ++ ·) := by
  have hvalid : triggerHandler.validate (.mapping ⟨[(key, w)]⟩) = .ok none :=
    (Converter.validate_members rfl).mpr ⟨⟨key, w, rfl⟩, rfl⟩
  have hinstruction : triggerHandler.instruction = "ONBUILD" :=
    builtinHandlers_instruction _ triggerHandler_mem
  have hnest : (Text.asciiUpper key = "ONBUILD" ∨ Text.asciiUpper key = "HEALTHCHECK") ↔
      Text.asciiUpper key ∈ Body.notNestable := by
    simp [Body.notNestable]
  rw [Converter.builtin_line_of_mem triggerHandler_mem hname.symm rfl, hvalid]
  have hbody : triggerHandler.body = .trigger := rfl
  have hline : triggerHandler.lineOf = ("ONBUILD " ++ ·) := by
    funext text
    rw [Handler.lineOf, hinstruction]
    rfl
  simp only [hbody, Converter.carryOut_trigger, if_congr hnest rfl rfl, hline, Call.onlyEntry,
    Call.mapping, Handler.callFor, Mapping.first?, List.head?_cons, Except.bind, hinstruction]
  split
  · rfl
  · rfl

/-! ## Lines with a line inside -/

/-- A trigger is the line inside with its own name in front, unless it is one that cannot be
nested.  A health check that is accepted is its flags and the line of its command, with a space
between them if there are flags.  If the command is there and may be one, an error in the options
comes before an error of the command.  And a conversion carries out the plan that it comes to, and
performs one inner conversion at the most, on a value in its argument. -/
theorem nested_lines_transparent :
    (∀ name key w, Text.asciiUpper name = "ONBUILD" →
      builtin.line name (.mapping ⟨[(key, w)]⟩) =
        if Text.asciiUpper key = "ONBUILD" ∨ Text.asciiUpper key = "HEALTHCHECK" then
          .error (.notNestable "ONBUILD" (Text.asciiUpper key))
        else (builtin.line key w).map ("ONBUILD " ++ ·)) ∧
    (∀ name m line, Text.asciiUpper name = "HEALTHCHECK" →
      builtin.line name (.mapping m) = .ok line →
        ∃ flags command inner, List.Forall₂ FlagOf m.options flags ∧
          m.get? "cmd" = some command ∧ builtin.line "CMD" command = .ok inner ∧
            line = "HEALTHCHECK " ++
              (Layout.joinWith " " flags ++ (if flags = [] then "" else " ") ++ inner)) ∧
    (∀ name m, Text.asciiUpper name = "HEALTHCHECK" →
      (∀ e, m.commandError? = some e → builtin.line name (.mapping m) = .error e) ∧
      (m.commandError? = none →
        (∀ e, m.optionsError? = some e → builtin.line name (.mapping m) = .error e) ∧
        (m.optionsError? = none → ∃ command, m.get? "cmd" = some command ∧
          ∀ e, builtin.line "CMD" command = .error e →
            builtin.line name (.mapping m) = .error e))) ∧
    ∀ name v,
      builtin.line name v = ((builtin.reach name v).bind fun reached =>
        (builtin.carryOut reached.2).map reached.1.lineOf) ∧
      ∀ depth, builtin.innerCalls depth name v = [] ∨
        ∃ inner w m key, v = .mapping m ∧ (key, w) ∈ m.entries ∧
          builtin.innerCalls depth name v = [(inner, w)] := by
  refine ⟨fun name key w hname => line_trigger hname key w, ?_, ?_, fun name v =>
    ⟨Converter.line_eq_reach, fun depth => Converter.innerCalls_builtin depth name v⟩⟩
  · intro name m line hname hline
    obtain ⟨hfails, hmakes⟩ := line_healthcheck hname m
    cases herror : m.commandError?.or m.optionsError? with
    | some e =>
        rw [hfails e herror] at hline
        cases hline
    | none =>
        obtain ⟨command, flags, hget, hflags, heq⟩ := hmakes herror
        rw [heq] at hline
        obtain ⟨inner, hinner, rfl⟩ := Results.of_map hline
        have hne : inner ≠ "" := by
          obtain ⟨h, hmem, hown, hshape, captures, text, hvalid, htext, rfl⟩ :=
            Converter.builtin_line_eq_ok_iff.mp hinner
          simp [Handler.lineOf]
        rw [joinPresent_flags hflags hne]
        exact ⟨flags, command, inner, hflags, hget, hinner, rfl⟩
  · intro name m hname
    obtain ⟨hfails, hmakes⟩ := line_healthcheck hname m
    refine ⟨fun e he => hfails e (by rw [he]; rfl), ?_⟩
    intro hcommand
    constructor
    · intro e he
      exact hfails e (by rw [hcommand, he]; rfl)
    · intro hnone
      obtain ⟨command, flags, hget, -, heq⟩ := hmakes (by rw [hcommand, hnone]; rfl)
      refine ⟨command, hget, fun e he => ?_⟩
      rw [heq, he]
      rfl

/-- Of an error in the options and one in the command, the first is not reported if the second is
that the command can be none. -/
theorem options_error_behind_command :
    ¬ ∀ (m : Mapping Value) (e e' : InstructionError), m.optionsError? = some e →
      m.commandError? = some e' → builtin.line "HEALTHCHECK" (.mapping m) = .error e := by
  intro h
  have hoptions : Mapping.optionsError? ⟨[("cmd", .integer 5),
      ("options", .mapping ⟨[("interval", .sequence [])]⟩)]⟩ =
        some (.argumentType "HEALTHCHECK" "interval" "scalar" "sequence") := rfl
  have hcommand : Mapping.commandError? ⟨[("cmd", .integer 5),
      ("options", .mapping ⟨[("interval", .sequence [])]⟩)]⟩ =
        some (.argumentType "HEALTHCHECK" "cmd" "string or sequence or mapping" "integer") := rfl
  have hline : builtin.line "HEALTHCHECK" (.mapping ⟨[("cmd", .integer 5),
      ("options", .mapping ⟨[("interval", .sequence [])]⟩)]⟩) =
        .error (.argumentType "HEALTHCHECK" "cmd" "string or sequence or mapping" "integer") :=
    Results.eq_error_of_error? (by decide +kernel)
  have heq := (h _ _ _ hoptions hcommand).symm.trans hline
  simp at heq

/-- A trigger in small letters, a health check with two flags, and one with two errors. -/
theorem nested_lines_transparent_make :
    builtin.line "onbuild" (.mapping ⟨[("run", .string "make")]⟩) =
      (builtin.line "run" (.string "make")).map ("ONBUILD " ++ ·) ∧
    (∃ flags command inner,
      List.Forall₂ FlagOf [("--timeout", .string "3s"), ("retries", .integer 2)] flags ∧
        Mapping.get? ⟨[("options",
            .mapping ⟨[("--timeout", .string "3s"), ("retries", .integer 2)]⟩),
          ("cmd", .string "curl -f x")]⟩ "cmd" = some command ∧
          builtin.line "CMD" command = .ok inner ∧
            "HEALTHCHECK --timeout=3s --retries=2 CMD curl -f x" = "HEALTHCHECK " ++
              (Layout.joinWith " " flags ++ (if flags = [] then "" else " ") ++ inner)) ∧
    builtin.line "HEALTHCHECK" (.mapping ⟨[("cmd", .string ""),
      ("options", .mapping ⟨[("interval", .sequence [])]⟩)]⟩) =
        .error (.argumentType "HEALTHCHECK" "interval" "scalar" "sequence") := by
  obtain ⟨htrigger, haccepted, herrors, -⟩ := nested_lines_transparent
  have hcheck : Text.asciiUpper "HEALTHCHECK" = "HEALTHCHECK" := by decide
  have hline : builtin.line "HEALTHCHECK" (.mapping
      ⟨[("options", .mapping ⟨[("--timeout", .string "3s"), ("retries", .integer 2)]⟩),
        ("cmd", .string "curl -f x")]⟩) =
          .ok "HEALTHCHECK --timeout=3s --retries=2 CMD curl -f x" :=
    Results.eq_ok_of_toOption (by decide +kernel)
  refine ⟨?_, haccepted _ _ _ hcheck hline, ?_⟩
  · have hname : Text.asciiUpper "onbuild" = "ONBUILD" := by decide
    rw [htrigger _ _ _ hname, if_neg (by decide)]
  · exact ((herrors _ _ hcheck).2 rfl).1 _ rfl

end ImageRecipe
