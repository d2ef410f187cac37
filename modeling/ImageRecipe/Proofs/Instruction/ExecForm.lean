import ImageRecipe.Proofs.Instruction.Builtin
import ImageRecipe.Proofs.Text.Word
import ImageRecipe.Proofs.Value.ReadBack

/-!
# Arguments written as arrays

Ten forms of argument are written as an array: which items it has is said by a relation that knows
neither handlers nor constraints, and the line leads back to just these items.

* `execForms` : the names and shapes
* `ExecItems`, `ExecItems.unique` : the items that an argument stands for
* `builtinHandlers_exec` : the handlers of these forms are of three kinds
* `exec_line` : the line of each accepted argument
* `exec_line_spells_items` : what can be read from the line, and which two forms agree
-/

namespace ImageRecipe

open Converter (builtin)

/-! ## Forms and items -/

/-- The instructions and shapes of argument that are written as an array. -/
def execForms : List (String × Shape) :=
  [("CMD", .sequence), ("ENTRYPOINT", .sequence), ("ADD", .sequence), ("COPY", .sequence),
   ("VOLUME", .sequence), ("SHELL", .sequence), ("RUN", .mapping), ("CMD", .mapping),
   ("ENTRYPOINT", .mapping), ("SHELL", .string)]

/-- The items that an argument stands for: those of a sequence, the executable of a mapping and
the parameters behind it, or the words of a text. -/
inductive ExecItems : Value → List Value → Prop where
  | sequence {items : List Value} : ExecItems (.sequence items) items
  | executable {m : Mapping Value} {executable : Value} :
      m.get? "executable" = some executable →
        (m.get? "params" = none ∨ m.get? "params" = some .null) →
          ExecItems (.mapping m) [executable]
  | params {m : Mapping Value} {executable : Value} {params : List Value} :
      m.get? "executable" = some executable → m.get? "params" = some (.sequence params) →
        ExecItems (.mapping m) (executable :: params)
  | words {s : String} {runs : List (List Char)} : Text.MaximalRuns s.toList runs →
      ExecItems (.string s) (runs.map fun run => .string (String.ofList run))

/-- An argument stands for one list of items only. -/
theorem ExecItems.unique {v : Value} {items others : List Value} (h : ExecItems v items)
    (h' : ExecItems v others) : others = items := by
  cases h with
  | sequence =>
      cases h'
      rfl
  | executable hexecutable hparams =>
      cases h' with
      | executable hexecutable' _ =>
          rw [hexecutable] at hexecutable'
          cases hexecutable'
          rfl
      | params _ hparams' =>
          rw [hparams'] at hparams
          simp at hparams
  | params hexecutable hparams =>
      cases h' with
      | executable _ hparams' =>
          rw [hparams] at hparams'
          simp at hparams'
      | params hexecutable' hparams' =>
          rw [hexecutable] at hexecutable'
          rw [hparams] at hparams'
          cases hexecutable'
          cases hparams'
          rfl
  | words hruns =>
      cases h' with
      | words hruns' =>
          rw [Text.maximalRuns_iff.mp hruns, Text.maximalRuns_iff.mp hruns']

/-- The items have no key twice if the argument has none. -/
theorem ExecItems.distinct {v : Value} {items : List Value} (h : ExecItems v items)
    (hv : v.Distinct) : Value.DistinctItems items := by
  have under : ∀ {m : Mapping Value} {key : String} {w : Value}, (Value.mapping m).Distinct →
      m.get? key = some w → w.Distinct := by
    intro m key w hm hget
    exact Value.distinctEntries_iff.mp (Value.distinct_entries hm) _ (Mapping.mem_of_get? hget)
  cases h with
  | sequence => exact hv
  | executable hexecutable _ => exact ⟨under hv hexecutable, trivial⟩
  | params hexecutable hparams =>
      have hsequence := under hv hparams
      exact ⟨under hv hexecutable, hsequence⟩
  | @words _ runs hruns =>
      clear hruns
      induction runs with
      | nil => trivial
      | cons run rest ih => exact ⟨trivial, ih⟩

/-- A mapping that names an executable and has, if any, a sequence of parameters. -/
theorem execItems_mapping {m : Mapping Value} (hexecutable : m.Requires "executable" [.string])
    (hparams : m.Allows "params" [.sequence]) :
    ExecItems (.mapping m) ((m.get? "executable").toList ++
      ((m.get? "params").bind Value.sequence?).getD []) := by
  obtain ⟨executable, hget, -⟩ := hexecutable
  rw [hget]
  cases hgiven : m.get? "params" with
  | none => exact .executable hget (.inl hgiven)
  | some given =>
      rcases hparams given hgiven with rfl | ⟨shape, hshape, hgs⟩
      · exact .executable hget (.inr hgiven)
      · obtain rfl := List.mem_singleton.mp hshape
        obtain ⟨params, rfl⟩ := Value.shape?_eq_sequence hgs
        exact .params hget hgiven

/-! ## Handlers -/

/-- The handler writes an array, and asks for what it needs to do so. -/
inductive Handler.Exec (h : Handler) : Prop where
  | sequence : h.shape = .sequence → h.body = .execSequence → Exec h
  | mapping : h.shape = .mapping →
      h.constraints =
        [.requiredKey "executable" [.string], .optionalKey "params" [.sequence] none] →
      h.body = .execMapping → Exec h
  | words : h.shape = .string → h.body = .wordArray → Exec h

/-- The handlers of the forms write arrays. -/
theorem builtinHandlers_exec :
    ∀ h ∈ builtinHandlers, (h.name, h.shape) ∈ execForms → h.Exec := by
  simp only [builtinHandlers, imageHandlers, commandHandlers, metadataHandlers, copyHandlers,
    settingHandlers, runtimeHandlers, stringHandler, sequenceHandler, triggerHandler,
    List.forall_mem_append, List.forall_mem_cons, List.not_mem_nil, false_implies, implies_true,
    and_true]
  -- a handler is of another form, or it can be seen of which kind it is
  and_intros
  all_goals
    first
    | exact fun hform => absurd hform (by decide)
    | exact fun _ => .sequence rfl rfl
    | exact fun _ => .mapping rfl rfl rfl
    | exact fun _ => .words rfl rfl

section Lines

variable {name line : String} {v : Value} {shape : Shape}

/-- The line of an accepted argument is the name and an array of the items that it stands for. -/
theorem exec_line (hform : (Text.asciiUpper name, shape) ∈ execForms)
    (hshape : v.shape? = some shape) (hline : builtin.line name v = .ok line) :
    ∃ items, ExecItems v items ∧ line = Text.asciiUpper name ++ " " ++ Body.jsonArray items := by
  obtain ⟨h, hmem, hname, hs, captures, text, hvalid, htext, rfl⟩ :=
    Converter.builtin_line_eq_ok_iff.mp hline
  obtain rfl : shape = h.shape := Option.some.inj (hshape.symm.trans hs)
  have hlineOf : h.lineOf text = Text.asciiUpper name ++ " " ++ text := by
    rw [Handler.lineOf, builtinHandlers_instruction h hmem, hname]
  rw [← hname] at hform
  rw [hlineOf]
  cases builtinHandlers_exec h hmem hform with
  | sequence hsequence hb =>
      rw [hsequence] at hs
      obtain ⟨items, rfl⟩ := Value.shape?_eq_sequence hs
      rw [hb, Body.execSequence, Converter.carryOut_pure] at htext
      cases htext
      exact ⟨items, .sequence, rfl⟩
  | mapping hmapping hc hb =>
      rw [hmapping] at hs
      obtain ⟨m, rfl⟩ := Value.shape?_eq_mapping hs
      obtain ⟨hexecutable, hparams⟩ :=
        (Converter.takes_execMapping hc hb).mp ⟨captures, text, hvalid, htext⟩
      rw [hb, Body.execMapping, Converter.carryOut_pure] at htext
      cases htext
      exact ⟨_, execItems_mapping hexecutable hparams, rfl⟩
  | words hstring hb =>
      rw [hstring] at hs
      obtain ⟨s, rfl⟩ := Value.shape?_eq_string hs
      rw [hb, Body.wordArray, Converter.carryOut_pure] at htext
      cases htext
      refine ⟨_, .words (Text.maximalRuns_iff.mpr rfl), ?_⟩
      simp only [Text.words_eq, List.map_map]
      rfl

/-- Two accepted arguments of one instruction have the same line if they stand for the same
items. -/
theorem exec_line_congr {w : Value} {other : Shape} {line' : String} {items : List Value}
    (hform : (Text.asciiUpper name, shape) ∈ execForms) (hshape : v.shape? = some shape)
    (hline : builtin.line name v = .ok line) (hv : ExecItems v items)
    (hform' : (Text.asciiUpper name, other) ∈ execForms) (hshape' : w.shape? = some other)
    (hline' : builtin.line name w = .ok line') (hw : ExecItems w items) : line = line' := by
  obtain ⟨of_v, hof_v, rfl⟩ := exec_line hform hshape hline
  obtain ⟨of_w, hof_w, rfl⟩ := exec_line hform' hshape' hline'
  rw [hv.unique hof_v, hw.unique hof_w]

end Lines

/-! ## Commands in two forms -/

section Commands

variable {name : String}

theorem mem_builtinHandlers_of_command (hname : name ∈ ["CMD", "ENTRYPOINT"]) :
    ∀ h ∈ commandHandlers name .execSequence, h ∈ builtinHandlers := by
  intro h hmem
  simp only [List.mem_cons, List.not_mem_nil, or_false] at hname
  rcases hname with rfl | rfl <;> simp [builtinHandlers, hmem]

theorem line_of_command_sequence (hname : Text.asciiUpper name ∈ ["CMD", "ENTRYPOINT"])
    {items : List Value} (hne : items ≠ []) :
    ∃ line, builtin.line name (.sequence items) = .ok line := by
  have hmem := mem_builtinHandlers_of_command hname
  simp only [commandHandlers, List.forall_mem_cons] at hmem
  refine Converter.builtin_line_isOk_iff.mpr ⟨_, hmem.2.1, rfl, rfl, ?_⟩
  rw [Converter.takes_sequenceHandler fun call h => Converter.makes_execSequence h]
  exact ⟨hne, trivial⟩

theorem line_of_command_mapping (hname : Text.asciiUpper name ∈ ["CMD", "ENTRYPOINT"])
    {m : Mapping Value} (hexecutable : m.Requires "executable" [.string])
    (hparams : m.Allows "params" [.sequence]) :
    ∃ line, builtin.line name (.mapping m) = .ok line := by
  have hmem := mem_builtinHandlers_of_command hname
  simp only [commandHandlers, List.forall_mem_cons] at hmem
  refine Converter.builtin_line_isOk_iff.mpr ⟨_, hmem.2.2.1, rfl, rfl, ?_⟩
  rw [Converter.takes_execMapping rfl rfl]
  exact ⟨hexecutable, hparams⟩

/-- The executable and its parameters are the items of a sequence, and both make the same line. -/
theorem line_of_command (hname : Text.asciiUpper name ∈ ["CMD", "ENTRYPOINT"]) {e : String}
    {params : List Value} {m : Mapping Value} (hexecutable : m.get? "executable" = some (.string e))
    (hparams : m.get? "params" = some (.sequence params)) :
    ∃ line, builtin.line name (.sequence (.string e :: params)) = .ok line ∧
      builtin.line name (.mapping m) = .ok line := by
  have hforms : (Text.asciiUpper name, Shape.sequence) ∈ execForms ∧
      (Text.asciiUpper name, Shape.mapping) ∈ execForms := by
    simp only [List.mem_cons, List.not_mem_nil, or_false] at hname
    rcases hname with hname | hname <;> rw [hname] <;> decide
  have hrequires : m.Requires "executable" [.string] := ⟨_, hexecutable, _, List.mem_cons_self, rfl⟩
  have hallows : m.Allows "params" [.sequence] := by
    intro v hv
    rw [hparams] at hv
    cases hv
    exact .inr ⟨_, List.mem_cons_self, rfl⟩
  obtain ⟨line, hline⟩ :=
    line_of_command_sequence hname (List.cons_ne_nil (Value.string e) params)
  obtain ⟨line', hline'⟩ := line_of_command_mapping hname hrequires hallows
  have hsame := exec_line_congr hforms.1 rfl hline .sequence hforms.2 rfl hline'
    (.params hexecutable hparams)
  exact ⟨line, hline, hsame ▸ hline'⟩

end Commands

/-! ## What a line says -/

/-- The line of an accepted argument is one physical line, without any of the characters below the
space that JSON calls control characters.  What stands behind the name is a JSON text of just the
items that the argument stands for, if no float is among them and they do not nest too deep.  A
command says the same as a sequence and as a mapping. -/
theorem exec_line_spells_items :
    (∀ {name line : String} {v : Value} {shape : Shape},
      (Text.asciiUpper name, shape) ∈ execForms → v.shape? = some shape → v.Distinct →
        builtin.line name v = .ok line →
          ∃ items text, (∀ others, ExecItems v others ↔ others = items) ∧
            line = Text.asciiUpper name ++ " " ++ text ∧
            line.toList.all Json.isShown = true ∧
            (Value.FloatFreeItems items → (Value.sequence items).depth ≤ 127 →
              SpellsItems text items)) ∧
    ∀ {name e : String} {params : List Value} {m : Mapping Value},
      Text.asciiUpper name ∈ ["CMD", "ENTRYPOINT"] → m.get? "executable" = some (.string e) →
        m.get? "params" = some (.sequence params) →
          ∃ line, builtin.line name (.sequence (.string e :: params)) = .ok line ∧
            builtin.line name (.mapping m) = .ok line := by
  refine ⟨?_, fun hname hexecutable hparams => line_of_command hname hexecutable hparams⟩
  intro name line v shape hform hshape hv hline
  obtain ⟨items, hitems, rfl⟩ := exec_line hform hshape hline
  have honly : ∀ others, ExecItems v others ↔ others = items := by
    intro others
    constructor
    · exact hitems.unique
    · rintro rfl
      exact hitems
  have hname : ∀ form ∈ execForms, form.1.toList.all Json.isShown = true := by decide
  have hspace : " ".toList.all Json.isShown = true := by decide
  have hshown : (Text.asciiUpper name ++ " " ++ Body.jsonArray items).toList.all Json.isShown =
      true := by
    rw [String.toList_append, String.toList_append, List.all_append, List.all_append,
      hname _ hform, hspace, Body.all_jsonArray]
    rfl
  exact ⟨items, _, honly, rfl, hshown, fun hfree hdepth =>
    Body.spellsItems_jsonArray (hitems.distinct hv) hfree hdepth⟩

/-- An executable with a quote and a control character in it, and a parameter with a mapping inside
whose keys are not in alphabetical order. -/
def nestedCommand : Mapping Value :=
  ⟨[("params", .sequence [.sequence [.mapping ⟨[("b", .null), ("a", .integer (-7))]⟩]]),
    ("executable", .string "say \"\x1f\"")]⟩

/-- The line and its two readings, at a mapping that nests. -/
theorem exec_line_nestedCommand :
    (∃ text, builtin.line "run" (.mapping nestedCommand) = .ok ("RUN " ++ text) ∧
      SpellsItems text [.string "say \"\x1f\"",
        .sequence [.mapping ⟨[("b", .null), ("a", .integer (-7))]⟩]]) ∧
    ∃ line, builtin.line "Cmd" (.mapping nestedCommand) = .ok line ∧
      builtin.line "Cmd" (.sequence [.string "say \"\x1f\"",
        .sequence [.mapping ⟨[("b", .null), ("a", .integer (-7))]⟩]]) = .ok line := by
  have hdistinct : (Value.mapping nestedCommand).Distinct := by
    simp [nestedCommand, Value.Distinct, Value.DistinctEntries, Value.DistinctItems]
  have hline : builtin.line "run" (.mapping nestedCommand) = .ok
      "RUN [\"say \\\"\\u001f\\\"\", [\x7b\"b\":null,\"a\":-7\x7d]]" :=
    Results.eq_ok_of_toOption (by decide +kernel)
  constructor
  · obtain ⟨items, text, honly, htext, -, hspells⟩ :=
      exec_line_spells_items.1 (by decide) rfl hdistinct hline
    have hitems := (honly _).mp (.params rfl rfl)
    subst hitems
    refine ⟨text, ?_, hspells ?_ (by decide)⟩
    · rw [hline, htext]
      rfl
    · simp [Value.FloatFreeItems, Value.FloatFree, Value.FloatFreeEntries]
  · have hname : Text.asciiUpper "Cmd" ∈ ["CMD", "ENTRYPOINT"] := by decide
    have hexecutable : nestedCommand.get? "executable" = some (.string "say \"\x1f\"") := rfl
    obtain ⟨line, hsequence, hmapping⟩ := exec_line_spells_items.2 hname hexecutable rfl
    exact ⟨line, hmapping, hsequence⟩

end ImageRecipe
