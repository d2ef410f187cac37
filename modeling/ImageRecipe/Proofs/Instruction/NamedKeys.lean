import ImageRecipe.Proofs.Instruction.Absence

/-!
# Mappings with named keys

Five instructions ask for certain keys of a mapping.  Nothing else of the mapping is read: neither
the order of its entries nor a key that is not asked for makes a difference, to the line or to the
error.

* `Mapping.AgreeOn` : two mappings have the same under each of some keys
* `Constraint.keys`, `Constraint.applyAll_congr` : the keys that constraints ask for
* `Handler.ReadsKeys` : bodies that read no other keys
* `namedKeys`, `builtin_line_of_agreeOn` : the keys of each instruction decide its line
-/

namespace ImageRecipe

open Converter (builtin)

/-! ## Agreement -/

/-- Under each of the keys, both mappings have the same value or none. -/
def Mapping.AgreeOn (keys : List String) (m n : Mapping Value) : Prop :=
  ∀ key ∈ keys, m.get? key = n.get? key

namespace Constraint

/-- The keys of a mapping that a constraint asks for. -/
def keys : Constraint → List String
  | .requiredKey key _ => [key]
  | .optionalKey key _ exclusiveWith => key :: exclusiveWith.toList
  | _ => []

variable {instruction usage : String} {m n : Mapping Value} {captures : Option Captures}

theorem givenKey?_congr {key : String} (h : m.get? key = n.get? key) :
    givenKey? m key = givenKey? n key := by
  rw [givenKey?, givenKey?, h]

/-- A constraint on keys sees no other keys. -/
theorem apply_congr {c : Constraint} (hc : c.asksForKey = true) (h : m.AgreeOn c.keys n) :
    c.apply instruction usage (.mapping m) captures =
      c.apply instruction usage (.mapping n) captures := by
  cases c with
  | requiredKey key shapes =>
      simp only [apply, mappingFor, bind, Except.bind,
        givenKey?_congr (h key List.mem_cons_self)]
  | optionalKey key shapes exclusiveWith =>
      simp only [apply, mappingFor, bind, Except.bind,
        givenKey?_congr (h key List.mem_cons_self)]
      cases exclusiveWith with
      | none => rfl
      | some other =>
          have hother : m.contains other = n.contains other := by
            rw [Mapping.contains_eq_isSome, Mapping.contains_eq_isSome,
              h other (List.mem_cons_of_mem _ List.mem_cons_self)]
          simp only [hother]
  | _ => cases hc

/-- Neither does a list of them. -/
theorem applyAll_congr {cs : List Constraint} (hcs : ∀ c ∈ cs, c.asksForKey = true)
    (h : m.AgreeOn (cs.flatMap keys) n) :
    applyAll instruction usage (.mapping m) captures cs =
      applyAll instruction usage (.mapping n) captures cs := by
  -- the captures that a constraint hands on are the same, so the others see the same as well
  induction cs generalizing captures with
  | nil => rfl
  | cons c rest ih =>
      obtain ⟨hc, hrest⟩ := List.forall_mem_cons.mp hcs
      rw [List.flatMap_cons] at h
      have hfirst : m.AgreeOn c.keys n := fun key hkey => h key (List.mem_append_left _ hkey)
      have hothers : m.AgreeOn (rest.flatMap keys) n :=
        fun key hkey => h key (List.mem_append_right _ hkey)
      simp only [applyAll, apply_congr hc hfirst]
      cases c.apply instruction usage (.mapping n) captures with
      | error e => rfl
      | ok between => exact ih hrest hothers

end Constraint

/-! ## Bodies -/

/-- The body reads no keys but those that the constraints ask for. -/
def Handler.ReadsKeys (h : Handler) : Prop :=
  ∀ m n captures, m.AgreeOn (h.constraints.flatMap Constraint.keys) n →
    builtin.carryOut (h.body (h.callFor (.mapping m) captures)) =
      builtin.carryOut (h.body (h.callFor (.mapping n) captures))

namespace Body

theorem textUnder_congr {m n : Mapping Value} {key : String} (h : m.get? key = n.get? key) :
    textUnder m key = textUnder n key := by
  rw [textUnder, textUnder, h]

end Body

namespace Handler

variable {h : Handler}

theorem readsKeys_imageMapping
    (hc : h.constraints =
      [.requiredKey "image" [.string],
       .optionalKey "tag" [.string, .integer] (some "digest"),
       .optionalKey "digest" [.string] (some "tag"),
       .optionalKey "alias" [.string] none,
       .optionalKey "platform" [.string] none])
    (hb : h.body = .imageMapping) : h.ReadsKeys := by
  intro m n captures hagree
  rw [hc] at hagree
  have himage := hagree "image" (by decide)
  have htag := hagree "tag" (by decide)
  have hdigest := hagree "digest" (by decide)
  have hstage := hagree "alias" (by decide)
  have hplatform := hagree "platform" (by decide)
  have hline : Body.imageLine m = Body.imageLine n := by
    funext tag
    simp only [Body.imageLine, Body.textUnder_congr himage, Body.textUnder_congr hdigest,
      Body.textUnder_congr hstage, Body.textUnder_congr hplatform]
  rw [hb, Converter.carryOut_imageMapping, Converter.carryOut_imageMapping]
  simp only [Call.mapping, callFor, Except.bind, Constraint.givenKey?_congr htag, hline]
  rfl

theorem readsKeys_execMapping
    (hc : h.constraints =
      [.requiredKey "executable" [.string], .optionalKey "params" [.sequence] none])
    (hb : h.body = .execMapping) : h.ReadsKeys := by
  intro m n captures hagree
  rw [hc] at hagree
  have hexecutable := hagree "executable" (by decide)
  have hparams := hagree "params" (by decide)
  simp only [hb, Body.execMapping, Converter.carryOut_pure, Call.mapping, callFor, Except.map,
    hexecutable, hparams]

theorem readsKeys_healthcheck
    (hc : h.constraints = [.requiredKey "cmd" [.string, .sequence, .mapping],
      .optionalKey "options" [.mapping] none])
    (hb : h.body = .healthcheck) : h.ReadsKeys := by
  intro m n captures hagree
  rw [hc] at hagree
  have hcommand := hagree "cmd" (by decide)
  have hoptions := hagree "options" (by decide)
  have hinstruction : (h.callFor (.mapping m) captures).instruction =
      (h.callFor (.mapping n) captures).instruction := rfl
  have hflags : Body.flags (h.callFor (.mapping m) captures) (m.get? "options") =
      Body.flags (h.callFor (.mapping n) captures) (n.get? "options") := by
    rw [hoptions]
    exact Body.flags_congr hinstruction _
  rw [hb, Converter.carryOut_healthcheck, Converter.carryOut_healthcheck]
  simp only [Call.mapping, callFor] at hflags ⊢
  simp only [Except.bind, hflags, hcommand]

/-- All handlers that ask for keys read no others. -/
theorem readsKeys_of_asksForKey (hmem : h ∈ builtinHandlers) (hshape : h.shape = .mapping)
    (hcs : ∀ c ∈ h.constraints, c.asksForKey = true) : h.ReadsKeys := by
  -- the other handlers of mappings take a mapping as a whole, or its one entry
  cases builtinHandlers_kind h hmem with
  | imageMapping _ hc hb => exact readsKeys_imageMapping hc hb
  | execMapping _ hc hb => exact readsKeys_execMapping hc hb
  | healthcheck _ _ hc hb => exact readsKeys_healthcheck hc hb
  | pairs _ hc | argumentMapping _ hc | trigger _ _ hc =>
      rw [hc] at hcs
      cases hcs _ List.mem_cons_self
  | noHealthcheck hnull => rw [hnull] at hshape; cases hshape
  | verbatim hother | wordArray hother | imageText hother | argumentText hother
  | requiredInteger hother | bounds hother | execSequence hother | quotedLines hother
  | spaceSeparated hother => rw [hother] at hshape; cases hshape

end Handler

/-! ## Lines -/

/-- A handler that asks for keys makes the same of mappings that agree on them. -/
theorem Converter.builtin_line_congr {name : String} {h : Handler} {m n : Mapping Value}
    (hmem : h ∈ builtinHandlers) (hname : h.name = Text.asciiUpper name)
    (hshape : h.shape = .mapping) (hcs : ∀ c ∈ h.constraints, c.asksForKey = true)
    (hagree : m.AgreeOn (h.constraints.flatMap Constraint.keys) n) :
    builtin.line name (.mapping m) = builtin.line name (.mapping n) := by
  have hdispatch : ∀ m : Mapping Value, (Value.mapping m).shape? = some h.shape := by
    intro m
    rw [hshape]
    rfl
  have hvalid : h.validate (.mapping m) = h.validate (.mapping n) :=
    Constraint.applyAll_congr hcs hagree
  rw [builtin_line_of_mem hmem hname (hdispatch m),
    builtin_line_of_mem hmem hname (hdispatch n), hvalid]
  cases h.validate (.mapping n) with
  | error e => rfl
  | ok captures =>
      have hbody := h.readsKeys_of_asksForKey hmem hshape hcs m n captures hagree
      exact congrArg (Except.map h.lineOf) hbody

/-- The instructions that ask for keys of a mapping, with these keys. -/
def namedKeys : List (String × List String) :=
  [("FROM", ["image", "tag", "digest", "alias", "platform"]), ("RUN", ["executable", "params"]),
   ("CMD", ["executable", "params"]), ("ENTRYPOINT", ["executable", "params"]),
   ("HEALTHCHECK", ["cmd", "options"])]

theorem exists_handler_of_namedKeys : ∀ form ∈ namedKeys, ∃ h ∈ builtinHandlers,
    h.name = form.1 ∧ h.shape = .mapping ∧ (∀ c ∈ h.constraints, c.asksForKey = true) ∧
      ∀ key ∈ h.constraints.flatMap Constraint.keys, key ∈ form.2 := by
  decide

/-- Mappings that agree on the keys of the instruction have the same line or the same error. -/
theorem builtin_line_of_agreeOn {name : String} {keys : List String} {m n : Mapping Value}
    (hform : (Text.asciiUpper name, keys) ∈ namedKeys) (hagree : m.AgreeOn keys n) :
    builtin.line name (.mapping m) = builtin.line name (.mapping n) := by
  obtain ⟨h, hmem, hname, hshape, hcs, hkeys⟩ := exists_handler_of_namedKeys _ hform
  exact Converter.builtin_line_congr hmem hname hshape hcs fun key hkey =>
    hagree key (hkeys key hkey)

end ImageRecipe
