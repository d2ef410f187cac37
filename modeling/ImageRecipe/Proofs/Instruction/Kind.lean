import ImageRecipe.Instruction.Builtin

/-!
# Kinds of built-in handlers

Thirty-four handlers share sixteen ways of dealing with an argument: a shape, constraints, and a
body.  Most facts on what the built-in instructions do are proved kind by kind.

* `Handler.Kind` : the kinds
* `builtinHandlers_kind` : every built-in handler is of one of them
-/

namespace ImageRecipe

/-- What a built-in handler asks of its argument and makes of it. -/
inductive Handler.Kind (h : Handler) : Prop where
  | verbatim {argument : String} : h.shape = .string →
      h.constraints = [.required argument .string] → h.body = .verbatim → Kind h
  | wordArray {argument : String} : h.shape = .string →
      h.constraints = [.required argument .string] → h.body = .wordArray → Kind h
  | imageText {argument : String} : h.shape = .string →
      h.constraints = [.required argument .string, .pattern argument .imageReference] →
      h.body = .imageText → Kind h
  | argumentText {argument : String} : h.shape = .string →
      h.constraints =
        [.required argument .string, .pattern argument (.assignment .identifier)] →
      h.body = .argumentText → Kind h
  | requiredInteger {argument : String} : h.shape = .integer →
      h.constraints = [.required argument .integer] → h.body = .decimal → Kind h
  | bounds {argument : String} {lower upper : Int64} : h.shape = .integer →
      h.constraints = [.bounds argument lower upper] → h.body = .decimal → Kind h
  | execSequence {argument : String} : h.shape = .sequence →
      h.constraints = [.required argument .sequence] → h.body = .execSequence → Kind h
  | quotedLines {argument : String} : h.shape = .sequence →
      h.constraints = [.required argument .sequence] → h.body = .quotedLines → Kind h
  | spaceSeparated {argument : String} : h.shape = .sequence →
      h.constraints = [.required argument .sequence] → h.body = .spaceSeparated → Kind h
  | execMapping : h.shape = .mapping →
      h.constraints =
        [.requiredKey "executable" [.string], .optionalKey "params" [.sequence] none] →
      h.body = .execMapping → Kind h
  | pairs {argument : String} : h.shape = .mapping →
      h.constraints = [.required argument .mapping] → h.body = .keyValueLines → Kind h
  | imageMapping : h.shape = .mapping →
      h.constraints =
        [.requiredKey "image" [.string],
         .optionalKey "tag" [.string, .integer] (some "digest"),
         .optionalKey "digest" [.string] (some "tag"),
         .optionalKey "alias" [.string] none,
         .optionalKey "platform" [.string] none] →
      h.body = .imageMapping → Kind h
  | argumentMapping {argument : String} : h.shape = .mapping →
      h.constraints = [.members argument 1] → h.body = .argumentMapping → Kind h
  | trigger {argument : String} : h.name = "ONBUILD" → h.shape = .mapping →
      h.constraints = [.members argument 1] → h.body = .trigger → Kind h
  | noHealthcheck : h.shape = .null → h.constraints = [] → h.body = .empty → Kind h
  | healthcheck : h.name = "HEALTHCHECK" → h.shape = .mapping →
      h.constraints =
        [.requiredKey "cmd" [.string, .sequence, .mapping],
         .optionalKey "options" [.mapping] none] →
      h.body = .healthcheck → Kind h

section Families

variable {name : String}

theorem imageHandlers_kind : ∀ h ∈ imageHandlers, h.Kind := by
  simp only [imageHandlers, List.forall_mem_cons, List.not_mem_nil, false_implies, implies_true,
    and_true]
  exact ⟨.imageText rfl rfl rfl, .imageMapping rfl rfl rfl⟩

theorem commandHandlers_kind {body : Body}
    (hsequence : ∀ h : Handler, h.shape = .sequence →
      h.constraints = [.required "command" .sequence] → h.body = body → h.Kind) :
    ∀ h ∈ commandHandlers name body, h.Kind := by
  simp only [commandHandlers, List.forall_mem_cons, List.not_mem_nil, false_implies, implies_true,
    and_true]
  exact ⟨.verbatim rfl rfl rfl, hsequence _ rfl rfl rfl, .execMapping rfl rfl rfl⟩

theorem metadataHandlers_kind : ∀ h ∈ metadataHandlers, h.Kind := by
  simp only [metadataHandlers, List.forall_mem_cons, List.not_mem_nil, false_implies, implies_true,
    and_true]
  exact ⟨.pairs rfl rfl rfl, .requiredInteger rfl rfl rfl, .spaceSeparated rfl rfl rfl,
    .verbatim rfl rfl rfl, .pairs rfl rfl rfl⟩

theorem copyHandlers_kind : ∀ h ∈ copyHandlers name, h.Kind := by
  simp only [copyHandlers, List.forall_mem_cons, List.not_mem_nil, false_implies, implies_true,
    and_true]
  exact ⟨.verbatim rfl rfl rfl, .execSequence rfl rfl rfl⟩

theorem settingHandlers_kind : ∀ h ∈ settingHandlers, h.Kind := by
  simp only [settingHandlers, List.forall_mem_cons, List.not_mem_nil, false_implies, implies_true,
    and_true]
  exact ⟨.verbatim rfl rfl rfl, .execSequence rfl rfl rfl, .verbatim rfl rfl rfl,
    .bounds rfl rfl rfl, .verbatim rfl rfl rfl, .argumentText rfl rfl rfl,
    .argumentMapping rfl rfl rfl⟩

theorem runtimeHandlers_kind : ∀ h ∈ runtimeHandlers, h.Kind := by
  simp only [runtimeHandlers, List.forall_mem_cons, List.not_mem_nil, false_implies, implies_true,
    and_true]
  exact ⟨.trigger rfl rfl rfl rfl, .verbatim rfl rfl rfl, .bounds rfl rfl rfl,
    .noHealthcheck rfl rfl rfl, .healthcheck rfl rfl rfl rfl, .wordArray rfl rfl rfl,
    .execSequence rfl rfl rfl⟩

end Families

/-- Every built-in handler is of one of the kinds. -/
theorem builtinHandlers_kind : ∀ h ∈ builtinHandlers, h.Kind := by
  simp only [builtinHandlers, List.forall_mem_append]
  exact ⟨⟨⟨⟨⟨⟨⟨⟨imageHandlers_kind, commandHandlers_kind fun _ => .quotedLines⟩,
    commandHandlers_kind fun _ => .execSequence⟩, commandHandlers_kind fun _ => .execSequence⟩,
    metadataHandlers_kind⟩, copyHandlers_kind⟩, copyHandlers_kind⟩, settingHandlers_kind⟩,
    runtimeHandlers_kind⟩

end ImageRecipe
