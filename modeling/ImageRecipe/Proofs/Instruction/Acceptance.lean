import ImageRecipe.Proofs.Instruction.Builtin

/-!
# The language of the built-in instructions

Which arguments the built-in converter accepts: a table with a row for each form of argument, given
without handlers, constraints or shapes, and the proof that a conversion succeeds exactly on what
the table admits.

* `Accepts` : the table, with a recursive row for each of the two nesting instructions
* `accepts_string_iff`, … : the rows of one shape
* `Handler.FitsTable`, `builtinHandlers_fitTable` : handler by handler, given the inner arguments
* `builtin_line_isOk_iff_accepts` : the whole language, by induction on the depth of the argument
-/

namespace ImageRecipe

/-! ## The table -/

/-- The instruction of this name, in capitals, takes the argument. -/
inductive Accepts : String → Value → Prop where
  | imageText {s : String} : s ≠ "" → Pattern.ImageForm s.toList → Accepts "FROM" (.string s)
  | image {m : Mapping Value} : m.NamesImage → Accepts "FROM" (.mapping m)
  | command {name s : String} : name ∈ ["RUN", "CMD", "ENTRYPOINT"] → s ≠ "" →
      Accepts name (.string s)
  | commandLines {items : List Value} : items ≠ [] → (∀ v ∈ items, v.isCollection = false) →
      Accepts "RUN" (.sequence items)
  | commandItems {name : String} {items : List Value} : name ∈ ["CMD", "ENTRYPOINT"] →
      items ≠ [] → Accepts name (.sequence items)
  | commandMapping {name : String} {m : Mapping Value} : name ∈ ["RUN", "CMD", "ENTRYPOINT"] →
      m.Requires "executable" [.string] → m.Allows "params" [.sequence] →
        Accepts name (.mapping m)
  | pairs {name : String} {m : Mapping Value} : name ∈ ["LABEL", "ENV"] → m.entries ≠ [] →
      (∀ e ∈ m.entries, e.2.isCollection = false) → Accepts name (.mapping m)
  | text {name s : String} :
      name ∈ ["ENV", "ADD", "COPY", "VOLUME", "USER", "WORKDIR", "STOPSIGNAL", "SHELL"] →
        s ≠ "" → Accepts name (.string s)
  | items {name : String} {items : List Value} : name ∈ ["ADD", "COPY", "VOLUME", "SHELL"] →
      items ≠ [] → Accepts name (.sequence items)
  | port {n : Int64} : n ≠ 0 → Accepts "EXPOSE" (.integer n)
  | ports {items : List Value} : items ≠ [] → (∀ v ∈ items, v.isCollection = false) →
      Accepts "EXPOSE" (.sequence items)
  | user {n : Int64} : 0 ≤ n → n ≤ 4294967295 → Accepts "USER" (.integer n)
  | signal {n : Int64} : 0 ≤ n → n ≤ 64 → Accepts "STOPSIGNAL" (.integer n)
  | argumentText {s : String} : s ≠ "" → Pattern.AssignmentForm .identifier s.toList →
      Accepts "ARG" (.string s)
  | argument {key : String} {v : Value} : v.isCollection = false →
      Accepts "ARG" (.mapping ⟨[(key, v)]⟩)
  /-- Any other instruction whose argument is accepted. -/
  | trigger {key : String} {v : Value} : Text.asciiUpper key ∉ ["ONBUILD", "HEALTHCHECK"] →
      Accepts (Text.asciiUpper key) v → Accepts "ONBUILD" (.mapping ⟨[(key, v)]⟩)
  | noHealthcheck : Accepts "HEALTHCHECK" .null
  /-- A command, in any of its three forms, and scalars as options. -/
  | healthcheck {m : Mapping Value} {command : Value} :
      m.Requires "cmd" [.string, .sequence, .mapping] → m.Allows "options" [.mapping] →
        (∀ given, m.get? "options" = some (.mapping given) →
          ∀ e ∈ given.entries, e.2.isCollection = false) →
        m.get? "cmd" = some command → Accepts "CMD" command → Accepts "HEALTHCHECK" (.mapping m)

/-! ## Rows of one shape -/

section Rows

variable {name : String}

theorem accepts_null_iff : Accepts name .null ↔ name = "HEALTHCHECK" := by
  constructor
  · intro h
    cases h
    rfl
  · rintro rfl
    exact .noHealthcheck

theorem accepts_string_iff {s : String} :
    Accepts name (.string s) ↔ s ≠ "" ∧
      (name = "FROM" ∧ Pattern.ImageForm s.toList ∨
        name = "ARG" ∧ Pattern.AssignmentForm .identifier s.toList ∨
        name ∈ ["RUN", "CMD", "ENTRYPOINT"] ∨
        name ∈ ["ENV", "ADD", "COPY", "VOLUME", "USER", "WORKDIR", "STOPSIGNAL", "SHELL"]) := by
  constructor
  · intro h
    cases h with
    | imageText hne form => exact ⟨hne, .inl ⟨rfl, form⟩⟩
    | argumentText hne form => exact ⟨hne, .inr (.inl ⟨rfl, form⟩)⟩
    | command hname hne => exact ⟨hne, .inr (.inr (.inl hname))⟩
    | text hname hne => exact ⟨hne, .inr (.inr (.inr hname))⟩
  · rintro ⟨hne, ⟨rfl, form⟩ | ⟨rfl, form⟩ | hname | hname⟩
    · exact .imageText hne form
    · exact .argumentText hne form
    · exact .command hname hne
    · exact .text hname hne

theorem accepts_integer_iff {n : Int64} :
    Accepts name (.integer n) ↔
      name = "EXPOSE" ∧ n ≠ 0 ∨ name = "USER" ∧ 0 ≤ n ∧ n ≤ 4294967295 ∨
        name = "STOPSIGNAL" ∧ 0 ≤ n ∧ n ≤ 64 := by
  constructor
  · intro h
    cases h with
    | port hne => exact .inl ⟨rfl, hne⟩
    | user hlower hupper => exact .inr (.inl ⟨rfl, hlower, hupper⟩)
    | signal hlower hupper => exact .inr (.inr ⟨rfl, hlower, hupper⟩)
  · rintro (⟨rfl, hne⟩ | ⟨rfl, hlower, hupper⟩ | ⟨rfl, hlower, hupper⟩)
    · exact .port hne
    · exact .user hlower hupper
    · exact .signal hlower hupper

theorem accepts_sequence_iff {items : List Value} :
    Accepts name (.sequence items) ↔ items ≠ [] ∧
      (name ∈ ["RUN", "EXPOSE"] ∧ (∀ v ∈ items, v.isCollection = false) ∨
        name ∈ ["CMD", "ENTRYPOINT", "ADD", "COPY", "VOLUME", "SHELL"]) := by
  constructor
  · intro h
    cases h with
    | commandLines hne scalars => exact ⟨hne, .inl ⟨by decide, scalars⟩⟩
    | commandItems hname hne => exact ⟨hne, .inr (List.mem_append_left _ hname)⟩
    | items hname hne =>
        exact ⟨hne, .inr (List.mem_append_right ["CMD", "ENTRYPOINT"] hname)⟩
    | ports hne scalars => exact ⟨hne, .inl ⟨by decide, scalars⟩⟩
  · rintro ⟨hne, ⟨hname, scalars⟩ | hname⟩
    · simp only [List.mem_cons, List.not_mem_nil, or_false] at hname
      rcases hname with rfl | rfl
      · exact .commandLines hne scalars
      · exact .ports hne scalars
    · have hsplit : name ∈ ["CMD", "ENTRYPOINT"] ++ ["ADD", "COPY", "VOLUME", "SHELL"] := hname
      rcases List.mem_append.mp hsplit with hname | hname
      · exact .commandItems hname hne
      · exact .items hname hne

theorem accepts_mapping_iff {m : Mapping Value} :
    Accepts name (.mapping m) ↔
      name = "FROM" ∧ m.NamesImage ∨
      name ∈ ["RUN", "CMD", "ENTRYPOINT"] ∧ m.Requires "executable" [.string] ∧
        m.Allows "params" [.sequence] ∨
      name ∈ ["LABEL", "ENV"] ∧ m.entries ≠ [] ∧ (∀ e ∈ m.entries, e.2.isCollection = false) ∨
      name = "ARG" ∧ (∃ key v, m.entries = [(key, v)] ∧ v.isCollection = false) ∨
      name = "ONBUILD" ∧ (∃ key v, m.entries = [(key, v)] ∧
        Text.asciiUpper key ∉ ["ONBUILD", "HEALTHCHECK"] ∧ Accepts (Text.asciiUpper key) v) ∨
      name = "HEALTHCHECK" ∧
        (m.Requires "cmd" [.string, .sequence, .mapping] ∧ m.Allows "options" [.mapping]) ∧
          (∀ given, m.get? "options" = some (.mapping given) →
            ∀ e ∈ given.entries, e.2.isCollection = false) ∧
          ∃ command, m.get? "cmd" = some command ∧ Accepts "CMD" command := by
  constructor
  · intro h
    cases h with
    | image him => exact .inl ⟨rfl, him⟩
    | commandMapping hname executable params => exact .inr (.inl ⟨hname, executable, params⟩)
    | pairs hname hne scalars => exact .inr (.inr (.inl ⟨hname, hne, scalars⟩))
    | argument scalar => exact .inr (.inr (.inr (.inl ⟨rfl, _, _, rfl, scalar⟩)))
    | trigger other inner =>
        exact .inr (.inr (.inr (.inr (.inl ⟨rfl, _, _, rfl, other, inner⟩))))
    | healthcheck cmd options scalars hcommand inner =>
        exact .inr (.inr (.inr (.inr (.inr
          ⟨rfl, ⟨cmd, options⟩, scalars, _, hcommand, inner⟩))))
  · obtain ⟨entries⟩ := m
    rintro (⟨rfl, him⟩ | ⟨hname, executable, params⟩ | ⟨hname, hne, scalars⟩ |
      ⟨rfl, key, v, rfl, scalar⟩ | ⟨rfl, key, v, rfl, other, inner⟩ |
      ⟨rfl, ⟨cmd, options⟩, scalars, command, hcommand, inner⟩)
    · exact .image him
    · exact .commandMapping hname executable params
    · exact .pairs hname hne scalars
    · exact .argument scalar
    · exact .trigger other inner
    · exact .healthcheck cmd options scalars hcommand inner

end Rows

/-! ## Handler by handler -/

/-- The handler takes of its shape what the table admits for its name. -/
def Handler.FitsTable (h : Handler) (v : Value) : Prop :=
  v.shape? = some h.shape → (Converter.builtin.Takes h v ↔ Accepts h.name v)

section Handlers

variable {name usage argument : String} {v : Value}

open Converter

theorem stringHandler_fitsTable {body : Body}
    (hname : name ∈ ["RUN", "CMD", "ENTRYPOINT"] ∨
      name ∈ ["ENV", "ADD", "COPY", "VOLUME", "USER", "WORKDIR", "STOPSIGNAL", "SHELL"])
    (hbody : ∀ (call : Call) (s : String), call.value = .string s →
      ∃ text, builtin.carryOut (body call) = .ok text) :
    (stringHandler name usage argument body).FitsTable v := by
  intro hv
  obtain ⟨s, rfl⟩ := Value.shape?_eq_string hv
  have hrow := hname
  rw [takes_stringHandler fun call => hbody call s, accepts_string_iff]
  simp only [stringHandler, hrow, or_true, and_true]

theorem verbatim_fitsTable
    (hname : name ∈ ["RUN", "CMD", "ENTRYPOINT"] ∨
      name ∈ ["ENV", "ADD", "COPY", "VOLUME", "USER", "WORKDIR", "STOPSIGNAL", "SHELL"]) :
    (stringHandler name usage argument .verbatim).FitsTable v :=
  stringHandler_fitsTable hname fun _ _ h => makes_verbatim h

theorem execSequence_fitsTable
    (hname : name ∈ ["CMD", "ENTRYPOINT", "ADD", "COPY", "VOLUME", "SHELL"]) :
    (sequenceHandler name usage argument .execSequence).FitsTable v := by
  intro hv
  obtain ⟨items, rfl⟩ := Value.shape?_eq_sequence hv
  rw [takes_sequenceHandler fun call h => makes_execSequence h, accepts_sequence_iff]
  simp only [sequenceHandler, hname, or_true]

/-- A sequence of which every item is written into the line as it is. -/
theorem scalarSequence_fitsTable {body : Body} (hname : name ∈ ["RUN", "EXPOSE"])
    (hbody : ∀ (call : Call) (items : List Value), call.value = .sequence items →
      ((∃ text, builtin.carryOut (body call) = .ok text) ↔
        ∀ v ∈ items, v.isCollection = false)) :
    (sequenceHandler name usage argument body).FitsTable v := by
  intro hv
  obtain ⟨items, rfl⟩ := Value.shape?_eq_sequence hv
  have hother : name ∉ ["CMD", "ENTRYPOINT", "ADD", "COPY", "VOLUME", "SHELL"] := by
    simp only [List.mem_cons, List.not_mem_nil, or_false] at hname
    rcases hname with rfl | rfl
    · decide
    · decide
  rw [takes_sequenceHandler fun call => hbody call items, accepts_sequence_iff]
  simp only [sequenceHandler, hname, hother, true_and, or_false]

theorem imageHandlers_fitTable : ∀ h ∈ imageHandlers, h.FitsTable v := by
  simp only [imageHandlers, List.forall_mem_cons, List.not_mem_nil, false_implies, implies_true,
    and_true]
  refine ⟨fun hv => ?_, fun hv => ?_⟩
  · obtain ⟨s, rfl⟩ := Value.shape?_eq_string hv
    rw [takes_pattern rfl fun _ => makes_imageText, accepts_string_iff,
      Pattern.imageReference_match?_isSome_iff]
    simp
  · obtain ⟨m, rfl⟩ := Value.shape?_eq_mapping hv
    rw [takes_imageMapping rfl rfl, accepts_mapping_iff]
    simp

theorem commandHandlers_fitTable {body : Body} (hname : name ∈ ["RUN", "CMD", "ENTRYPOINT"])
    (hsequence : (sequenceHandler name Usage.commandSequence "command" body).FitsTable v) :
    ∀ h ∈ commandHandlers name body, h.FitsTable v := by
  simp only [commandHandlers, List.forall_mem_cons, List.not_mem_nil, false_implies, implies_true,
    and_true]
  refine ⟨verbatim_fitsTable (.inl hname), hsequence, fun hv => ?_⟩
  obtain ⟨m, rfl⟩ := Value.shape?_eq_mapping hv
  rw [takes_execMapping rfl rfl, accepts_mapping_iff]
  simp only [List.mem_cons, List.not_mem_nil, or_false] at hname
  rcases hname with rfl | rfl | rfl <;> simp

theorem copyHandlers_fitTable (hname : name ∈ ["ADD", "COPY"]) :
    ∀ h ∈ copyHandlers name, h.FitsTable v := by
  simp only [copyHandlers, List.forall_mem_cons, List.not_mem_nil, false_implies, implies_true,
    and_true]
  simp only [List.mem_cons, List.not_mem_nil, or_false] at hname
  rcases hname with rfl | rfl
  · exact ⟨verbatim_fitsTable (by decide), execSequence_fitsTable (by decide)⟩
  · exact ⟨verbatim_fitsTable (by decide), execSequence_fitsTable (by decide)⟩

theorem pairs_fitsTable {h : Handler} (hname : h.name ∈ ["LABEL", "ENV"])
    (hshape : h.shape = .mapping) (hc : h.constraints = [.required argument .mapping])
    (hb : h.body = .keyValueLines) : h.FitsTable v := by
  intro hv
  rw [hshape] at hv
  obtain ⟨m, rfl⟩ := Value.shape?_eq_mapping hv
  rw [takes_pairs hc hb, accepts_mapping_iff]
  simp only [List.mem_cons, List.not_mem_nil, or_false] at hname
  rcases hname with hname | hname <;> simp [hname]

theorem metadataHandlers_fitTable : ∀ h ∈ metadataHandlers, h.FitsTable v := by
  simp only [metadataHandlers, List.forall_mem_cons, List.not_mem_nil, false_implies, implies_true,
    and_true]
  refine ⟨pairs_fitsTable (by decide) rfl rfl rfl, fun hv => ?_,
    scalarSequence_fitsTable (by decide) fun _ _ => makes_spaceSeparated,
    verbatim_fitsTable (by decide), pairs_fitsTable (by decide) rfl rfl rfl⟩
  obtain ⟨n, rfl⟩ := Value.shape?_eq_integer hv
  rw [takes_requiredInteger rfl rfl, accepts_integer_iff]
  simp

theorem bounds_fitsTable {h : Handler} {lower upper : Int64} (hshape : h.shape = .integer)
    (hc : h.constraints = [.bounds argument lower upper]) (hb : h.body = .decimal)
    (hrow : ∀ n, Accepts h.name (.integer n) ↔ lower ≤ n ∧ n ≤ upper) : h.FitsTable v := by
  intro hv
  rw [hshape] at hv
  obtain ⟨n, rfl⟩ := Value.shape?_eq_integer hv
  rw [takes_bounds hc hb, hrow]

theorem settingHandlers_fitTable : ∀ h ∈ settingHandlers, h.FitsTable v := by
  simp only [settingHandlers, List.forall_mem_cons, List.not_mem_nil, false_implies, implies_true,
    and_true]
  refine ⟨verbatim_fitsTable (by decide), execSequence_fitsTable (by decide),
    verbatim_fitsTable (by decide),
    bounds_fitsTable rfl rfl rfl fun n => by rw [accepts_integer_iff]; simp,
    verbatim_fitsTable (by decide), fun hv => ?_, fun hv => ?_⟩
  · obtain ⟨s, rfl⟩ := Value.shape?_eq_string hv
    rw [takes_pattern rfl fun _ => makes_argumentText, accepts_string_iff,
      Pattern.assignment_match?_isSome_iff]
    simp
  · obtain ⟨m, rfl⟩ := Value.shape?_eq_mapping hv
    rw [takes_argumentMapping rfl rfl, accepts_mapping_iff]
    simp

/-- Here the inner arguments come in, which nest less deep. -/
theorem runtimeHandlers_fitTable
    (inner : ∀ name w, w.depth < v.depth →
      ((∃ line, builtin.line name w = .ok line) ↔ Accepts (Text.asciiUpper name) w)) :
    ∀ h ∈ runtimeHandlers, h.FitsTable v := by
  simp only [runtimeHandlers, List.forall_mem_cons, List.not_mem_nil, false_implies, implies_true,
    and_true]
  refine ⟨fun hv => ?_, verbatim_fitsTable (by decide),
    bounds_fitsTable rfl rfl rfl fun n => by rw [accepts_integer_iff]; simp,
    fun hv => ?_, fun hv => ?_,
    stringHandler_fitsTable (by decide) fun _ _ => makes_wordArray,
    execSequence_fitsTable (by decide)⟩
  · obtain ⟨m, rfl⟩ := Value.shape?_eq_mapping hv
    rw [takes_trigger rfl rfl, accepts_mapping_iff]
    have hrow : (∃ key w, m.entries = [(key, w)] ∧ Text.asciiUpper key ∉ Body.notNestable ∧
          ∃ line, builtin.line key w = .ok line) ↔
        ∃ key w, m.entries = [(key, w)] ∧
          Text.asciiUpper key ∉ ["ONBUILD", "HEALTHCHECK"] ∧ Accepts (Text.asciiUpper key) w := by
      refine exists_congr fun key => exists_congr fun w => and_congr_right fun hentries => ?_
      have hfirst : m.first? = some (key, w) := by rw [Mapping.first?, hentries, List.head?_cons]
      rw [inner key w (Value.depth_lt_of_first? hfirst)]
      rfl
    rw [hrow]
    simp [triggerHandler]
  · rw [Value.shape?_eq_null hv, accepts_null_iff]
    exact iff_of_true (takes_null rfl rfl) rfl
  · obtain ⟨m, rfl⟩ := Value.shape?_eq_mapping hv
    rw [takes_healthcheck rfl rfl, accepts_mapping_iff]
    have hrow : (∃ command, m.get? "cmd" = some command ∧
          ∃ line, builtin.line "CMD" command = .ok line) ↔
        ∃ command, m.get? "cmd" = some command ∧ Accepts "CMD" command := by
      refine exists_congr fun command => and_congr_right fun hcommand => ?_
      exact inner "CMD" command (Value.depth_lt_of_get? hcommand)
    rw [hrow]
    simp

/-- Every built-in handler fits the table. -/
theorem builtinHandlers_fitTable
    (inner : ∀ name w, w.depth < v.depth →
      ((∃ line, builtin.line name w = .ok line) ↔ Accepts (Text.asciiUpper name) w)) :
    ∀ h ∈ builtinHandlers, h.FitsTable v := by
  simp only [builtinHandlers, List.forall_mem_append]
  exact ⟨⟨⟨⟨⟨⟨⟨⟨imageHandlers_fitTable,
    commandHandlers_fitTable (by decide)
      (scalarSequence_fitsTable (by decide) fun _ _ => makes_quotedLines)⟩,
    commandHandlers_fitTable (by decide) (execSequence_fitsTable (by decide))⟩,
    commandHandlers_fitTable (by decide) (execSequence_fitsTable (by decide))⟩,
    metadataHandlers_fitTable⟩, copyHandlers_fitTable (by decide)⟩,
    copyHandlers_fitTable (by decide)⟩, settingHandlers_fitTable⟩,
    runtimeHandlers_fitTable inner⟩

end Handlers

/-! ## The whole language -/

/-- For each row of the table there is a handler. -/
theorem Accepts.handled {name : String} {v : Value} (h : Accepts name v) :
    ∃ g ∈ builtinHandlers, g.name = name ∧ v.shape? = some g.shape := by
  -- names and shapes of the built-in handlers are a closed list, on which each row is looked up
  have listed : ∀ shape, v.shape? = some shape →
      (name, shape) ∈ builtinHandlers.map (fun g => (g.name, g.shape)) →
        ∃ g ∈ builtinHandlers, g.name = name ∧ v.shape? = some g.shape := by
    intro shape hshape hmem
    obtain ⟨g, hg, heq⟩ := List.mem_map.mp hmem
    cases heq
    exact ⟨g, hg, rfl, hshape⟩
  have listed_of_mem : ∀ (names : List String) (shape : Shape),
      (∀ name ∈ names, (name, shape) ∈ builtinHandlers.map fun g => (g.name, g.shape)) →
        name ∈ names → v.shape? = some shape →
          ∃ g ∈ builtinHandlers, g.name = name ∧ v.shape? = some g.shape :=
    fun names shape hall hname hshape => listed shape hshape (hall name hname)
  cases h with
  | imageText | argumentText => exact listed .string rfl (by decide)
  | command hname | text hname => exact listed_of_mem _ .string (by decide) hname rfl
  | commandLines | ports => exact listed .sequence rfl (by decide)
  | commandItems hname | items hname =>
      exact listed_of_mem _ .sequence (by decide) hname rfl
  | commandMapping hname | pairs hname =>
      exact listed_of_mem _ .mapping (by decide) hname rfl
  | port | user | signal => exact listed .integer rfl (by decide)
  | noHealthcheck => exact listed .null rfl (by decide)
  | image | argument | trigger | healthcheck => exact listed .mapping rfl (by decide)

/-- The built-in converter has a line for exactly the arguments that the table admits. -/
theorem builtin_line_isOk_iff_accepts (name : String) (v : Value) :
    (∃ line, Converter.builtin.line name v = .ok line) ↔ Accepts (Text.asciiUpper name) v := by
  -- the induction is on the depth of the argument, since two instructions nest others
  induction hd : v.depth using Nat.strongRecOn generalizing name v with
  | ind depth ih =>
      have fits := builtinHandlers_fitTable
        (fun name w deeper => ih w.depth (hd ▸ deeper) name w rfl)
      rw [Converter.builtin_line_isOk_iff]
      constructor
      · rintro ⟨h, hmem, hname, hshape, htakes⟩
        exact hname ▸ (fits h hmem hshape).mp htakes
      · intro haccepts
        obtain ⟨h, hmem, hname, hshape⟩ := haccepts.handled
        refine ⟨h, hmem, hname, hshape, (fits h hmem hshape).mpr ?_⟩
        rw [hname]
        exact haccepts

end ImageRecipe
