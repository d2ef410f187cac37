import ImageRecipe.Proofs.Instruction.Builtin
import ImageRecipe.Proofs.Instruction.Kind
import ImageRecipe.Proofs.Mapping

/-!
# Entries that are null

A template that leaves a value blank makes an entry whose value is null.  For the keys that a
handler asks for, such an entry is as good as none: each constraint and each body looks at the
values that are given.  There is one exception.  Where two keys exclude each other, the one that is
given is refused for an entry of the other, and an entry that is null is an entry.

* `Mapping.given` : a mapping without its null entries
* `Constraint.exclusion?`, `Mapping.MeetsNull` : a key that is given, and one that it excludes is
  there, but null
* `Constraint.apply_given`, `Constraint.applyAll_given` : what constraints on keys make of that
* `Handler.ReadsGiven` : bodies that do not see null entries, once the constraints have passed
* `null_entry_absent_or_excluding` : lines
-/

namespace ImageRecipe

open Converter (builtin)

/-! ## What is given -/

/-- The entries whose value is not null. -/
def Mapping.given (m : Mapping Value) : Mapping Value :=
  ⟨m.entries.filter fun e => !e.2.isNull⟩

/-- A key is given, and the other one has an entry, but a null one. -/
structure Mapping.MeetsNull (m : Mapping Value) (key other : String) : Prop where
  given : (Constraint.givenKey? m key).isSome = true
  null : m.get? other = some .null

namespace Mapping

variable {m : Mapping Value} {key : String}

/-- Among the entries that are not null, a key has the value that is given for it. -/
theorem get?_given (distinct : m.Distinct) : m.given.get? key = Constraint.givenKey? m key := by
  obtain ⟨entries⟩ := m
  simp only [given, get?, Constraint.givenKey?]
  induction entries with
  | nil => rfl
  | cons e rest ih =>
      obtain ⟨name, value⟩ := e
      obtain ⟨hnew, hrest⟩ : name ∉ rest.map Prod.fst ∧ (rest.map Prod.fst).Nodup :=
        List.nodup_cons.mp distinct
      have ih := ih hrest
      by_cases hname : name = key
      · subst hname
        have hnone : findEntry name rest = none := get?_eq_none_iff (m := ⟨rest⟩) |>.mpr hnew
        rw [hnone] at ih
        cases value with
        | null => simpa [Value.isNull, findEntry] using ih
        | _ => simp [Value.isNull, findEntry]
      · cases value with
        | null => simpa [Value.isNull, findEntry, hname] using ih
        | _ => simpa [Value.isNull, findEntry, hname] using ih

theorem givenKey?_given (distinct : m.Distinct) :
    Constraint.givenKey? m.given key = Constraint.givenKey? m key := by
  rw [Constraint.givenKey?, get?_given distinct]
  split
  · rename_i hnull
    exact absurd rfl (Constraint.givenKey?_eq_some_iff.mp hnull).2
  · rfl

/-- A key loses its entry only if the entry was null. -/
theorem contains_given (distinct : m.Distinct) (hnull : m.get? key ≠ some .null) :
    m.given.contains key = m.contains key := by
  rw [contains_eq_isSome, contains_eq_isSome, get?_given distinct, Constraint.givenKey?]
  split
  · rename_i h
    exact absurd h hnull
  · rfl

/-- A value of a shape other than null is given. -/
theorem Requires.get?_given {shapes : List Shape} (distinct : m.Distinct)
    (h : m.Requires key shapes) (hnull : Shape.null ∉ shapes) :
    m.given.get? key = m.get? key := by
  obtain ⟨v, hget, shape, hmem, hshape⟩ := h
  have hne : v ≠ .null := by
    rintro rfl
    cases hshape
    exact hnull hmem
  rw [Mapping.get?_given distinct, hget]
  exact Constraint.givenKey?_eq_some_iff.mpr ⟨hget, hne⟩

end Mapping

/-! ## Constraints -/

namespace Constraint

/-- The constraint asks about one key of a mapping. -/
def asksForKey : Constraint → Bool
  | .requiredKey _ _ | .optionalKey _ _ _ => true
  | _ => false

/-- A key and the other one that has to be without an entry. -/
def exclusion? : Constraint → Option (String × String)
  | .optionalKey key _ (some other) => some (key, other)
  | _ => none

variable {instruction usage : String} {m : Mapping Value} {captures : Option Captures}

/-- A constraint on a key does not see null entries, unless its key is given and the other key has
one. -/
theorem apply_given (instruction usage : String) (captures : Option Captures) {c : Constraint}
    (hc : c.asksForKey = true) (distinct : m.Distinct) :
    c.apply instruction usage (.mapping m) captures =
        c.apply instruction usage (.mapping m.given) captures ∨
      ∃ key other, c.exclusion? = some (key, other) ∧ m.MeetsNull key other ∧
        c.apply instruction usage (.mapping m) captures =
          .error (.argumentsExclusive instruction key other) := by
  cases c with
  | requiredKey key shapes =>
      exact .inl (by simp only [apply, mappingFor, bind, Except.bind,
        Mapping.givenKey?_given distinct])
  | optionalKey key shapes exclusiveWith =>
      simp only [apply, mappingFor, bind, Except.bind, Mapping.givenKey?_given distinct]
      cases hgiven : givenKey? m key with
      | none => simp
      | some found =>
          cases hcheck : checkShapes instruction key shapes found with
          | error e => simp [hcheck]
          | ok u =>
              cases exclusiveWith with
              | none => simp [hcheck]
              | some other =>
                  simp only [hcheck]
                  by_cases hnull : m.get? other = some .null
                  · have hother : m.contains other = true := Mapping.contains_of_get? hnull
                    refine .inr ⟨key, other, rfl, ⟨by rw [hgiven]; rfl, hnull⟩, ?_⟩
                    rw [if_pos hother]
                  · rw [Mapping.contains_given distinct hnull]
                    exact .inl rfl
  | _ => cases hc

/-- Neither does a list of them, up to the first that meets such an entry. -/
theorem applyAll_given {cs : List Constraint} (hcs : ∀ c ∈ cs, c.asksForKey = true)
    (distinct : m.Distinct) :
    applyAll instruction usage (.mapping m) captures cs =
        applyAll instruction usage (.mapping m.given) captures cs ∨
      ∃ c ∈ cs, ∃ key other, c.exclusion? = some (key, other) ∧ m.MeetsNull key other ∧
        applyAll instruction usage (.mapping m) captures cs =
          .error (.argumentsExclusive instruction key other) := by
  induction cs generalizing captures with
  | nil => exact .inl rfl
  | cons c rest ih =>
      obtain ⟨hc, hrest⟩ := List.forall_mem_cons.mp hcs
      simp only [applyAll]
      rcases apply_given instruction usage captures hc distinct with
        hsame | ⟨key, other, hexclusion, meets, hfail⟩
      · rw [← hsame]
        cases c.apply instruction usage (.mapping m) captures with
        | error e => exact .inl rfl
        | ok between =>
            refine (ih hrest).imp_right ?_
            rintro ⟨d, hd, hfails⟩
            exact ⟨d, List.mem_cons_of_mem _ hd, hfails⟩
      · refine .inr ⟨c, List.mem_cons_self, key, other, hexclusion, meets, ?_⟩
        rw [hfail]

end Constraint

/-! ## Bodies -/

/-- What the body makes of a mapping that has passed the constraints does not depend on its null
entries. -/
def Handler.ReadsGiven (h : Handler) : Prop :=
  ∀ m captures, m.Distinct → h.validate (.mapping m) = .ok captures →
    builtin.carryOut (h.body (h.callFor (.mapping m) captures)) =
      builtin.carryOut (h.body (h.callFor (.mapping m.given) captures))

/-- Of a call, pairs of scalars show nothing but the instruction, in their error. -/
theorem Call.scalarPairs_congr {call other : Call} (h : call.instruction = other.instruction)
    (entries : List (String × Value)) : call.scalarPairs entries = other.scalarPairs entries := by
  induction entries with
  | nil => rfl
  | cons e rest ih => simp only [scalarPairs, scalar, mismatch, h, ih]

namespace Body

theorem flags_congr {call other : Call} (h : call.instruction = other.instruction)
    (options : Option Value) : flags call options = flags other options := by
  unfold flags
  split
  · rw [Call.scalarPairs_congr h]
  · rfl

variable {m : Mapping Value} (distinct : m.Distinct)

include distinct

/-- Texts that are read where a null would be none are those that are given. -/
theorem textUnder_given (key : String) : textUnder m.given key = textUnder m key := by
  rw [textUnder, textUnder, Mapping.get?_given distinct, Constraint.givenKey?]
  split
  · rename_i hnull
    rw [hnull]
    rfl
  · rfl

theorem imageLine_given (tag : Option String) : imageLine m.given tag = imageLine m tag := by
  simp only [imageLine, textUnder_given distinct]

theorem flags_given {call given : Call} (h : given.instruction = call.instruction) :
    flags given (m.given.get? "options") = flags call (m.get? "options") := by
  rw [Mapping.get?_given distinct, Constraint.givenKey?]
  split
  · rename_i hnull
    rw [hnull]
    rfl
  · exact flags_congr h _

end Body

namespace Handler

variable {h : Handler}

theorem readsGiven_imageMapping (hb : h.body = .imageMapping) : h.ReadsGiven := by
  intro m captures distinct _
  rw [hb, Converter.carryOut_imageMapping, Converter.carryOut_imageMapping]
  simp only [Call.mapping, callFor, Except.bind, Mapping.givenKey?_given distinct]
  rw [funext (Body.imageLine_given distinct)]
  rfl

theorem readsGiven_execMapping
    (hc : h.constraints =
      [.requiredKey "executable" [.string], .optionalKey "params" [.sequence] none])
    (hb : h.body = .execMapping) : h.ReadsGiven := by
  intro m captures distinct hvalid
  rw [Converter.validate_eq _ hc, Constraint.applyAll_cons_iff] at hvalid
  obtain ⟨between, hexecutable, -⟩ := hvalid
  have requires := ((Constraint.apply_requiredKey (by decide)).mp hexecutable).1
  have hparams : (m.given.get? "params").bind Value.sequence? =
      (m.get? "params").bind Value.sequence? := by
    rw [Mapping.get?_given distinct, Constraint.givenKey?]
    split
    · rename_i hnull
      rw [hnull]
      rfl
    · rfl
  simp only [hb, Body.execMapping, Converter.carryOut_pure, Call.mapping, callFor, Except.map,
    requires.get?_given distinct (by decide), hparams]

theorem readsGiven_healthcheck
    (hc : h.constraints = [.requiredKey "cmd" [.string, .sequence, .mapping],
      .optionalKey "options" [.mapping] none])
    (hb : h.body = .healthcheck) : h.ReadsGiven := by
  intro m captures distinct hvalid
  rw [Converter.validate_eq _ hc, Constraint.applyAll_cons_iff] at hvalid
  obtain ⟨between, hcommand, -⟩ := hvalid
  have requires := ((Constraint.apply_requiredKey (by decide)).mp hcommand).1
  rw [hb, Converter.carryOut_healthcheck, Converter.carryOut_healthcheck]
  have hflags : Body.flags (h.callFor (.mapping m.given) captures) (m.given.get? "options") =
      Body.flags (h.callFor (.mapping m) captures) (m.get? "options") :=
    Body.flags_given distinct rfl
  have hcmd : m.given.get? "cmd" = m.get? "cmd" := requires.get?_given distinct (by decide)
  simp only [Call.mapping, callFor] at hflags ⊢
  simp only [Except.bind, hflags, hcmd]

/-- All handlers that ask for keys read what is given. -/
theorem readsGiven_of_asksForKey (hmem : h ∈ builtinHandlers) (hshape : h.shape = .mapping)
    (hcs : ∀ c ∈ h.constraints, c.asksForKey = true) : h.ReadsGiven := by
  -- the handlers of mappings that do not ask for keys ask for the mapping or count its entries
  cases builtinHandlers_kind h hmem with
  | imageMapping _ _ hb => exact readsGiven_imageMapping hb
  | execMapping _ hc hb => exact readsGiven_execMapping hc hb
  | healthcheck _ _ hc hb => exact readsGiven_healthcheck hc hb
  | pairs _ hc | argumentMapping _ hc | trigger _ _ hc =>
      rw [hc] at hcs
      cases hcs _ List.mem_cons_self
  | noHealthcheck hnull => rw [hnull] at hshape; cases hshape
  | verbatim hother | wordArray hother | imageText hother | argumentText hother
  | requiredInteger hother | bounds hother | execSequence hother | quotedLines hother
  | spaceSeparated hother => rw [hother] at hshape; cases hshape

end Handler

/-! ## Lines -/

/-- A handler whose constraints ask for keys makes the same line of a mapping and of what is given
in it, unless a key meets a null entry that it excludes. -/
theorem Converter.builtin_line_given {name : String} {h : Handler} {m : Mapping Value}
    (hmem : h ∈ builtinHandlers) (hname : h.name = Text.asciiUpper name)
    (hshape : h.shape = .mapping) (hcs : ∀ c ∈ h.constraints, c.asksForKey = true)
    (distinct : m.Distinct) :
    builtin.line name (.mapping m) = builtin.line name (.mapping m.given) ∨
      ∃ c ∈ h.constraints, ∃ key other, c.exclusion? = some (key, other) ∧ m.MeetsNull key other ∧
        builtin.line name (.mapping m) = .error (.argumentsExclusive h.instruction key other) := by
  have hdispatch : ∀ m : Mapping Value, (Value.mapping m).shape? = some h.shape := by
    intro m
    rw [hshape]
    rfl
  rw [builtin_line_of_mem hmem hname (hdispatch m),
    builtin_line_of_mem hmem hname (hdispatch m.given)]
  have hvalid : h.validate (.mapping m) = h.validate (.mapping m.given) ∨
      ∃ c ∈ h.constraints, ∃ key other, c.exclusion? = some (key, other) ∧ m.MeetsNull key other ∧
        h.validate (.mapping m) = .error (.argumentsExclusive h.instruction key other) :=
    Constraint.applyAll_given hcs distinct
  rcases hvalid with hsame | ⟨c, hc, key, other, hexclusion, meets, hfail⟩
  · rw [← hsame]
    cases hcaptures : h.validate (.mapping m) with
    | error e => exact .inl rfl
    | ok captures =>
        have hbody := h.readsGiven_of_asksForKey hmem hshape hcs m captures distinct hcaptures
        exact .inl (congrArg (Except.map h.lineOf) hbody)
  · rw [hfail]
    exact .inr ⟨c, hc, key, other, hexclusion, meets, rfl⟩

/-- The instructions that ask for the keys of a mapping. -/
def keyedInstructions : List String := ["FROM", "RUN", "CMD", "ENTRYPOINT", "HEALTHCHECK"]

theorem exists_keyed_handler : ∀ name ∈ keyedInstructions, ∃ h ∈ builtinHandlers,
    h.name = name ∧ h.shape = .mapping ∧ ∀ c ∈ h.constraints, c.asksForKey = true := by
  decide

/-- Only the tag and the digest of an image exclude each other. -/
theorem builtinHandlers_exclusions : ∀ h ∈ builtinHandlers,
    ∀ keys ∈ h.constraints.filterMap Constraint.exclusion?,
      h.instruction = "FROM" ∧ keys ∈ [("tag", "digest"), ("digest", "tag")] := by
  decide

/-- A null entry in the mapping of one of the instructions that ask for keys changes nothing, but
for one case: a tag is refused for a digest that is null, or a digest for such a tag. -/
theorem null_entry_absent_or_excluding {name : String} {m : Mapping Value}
    (hname : Text.asciiUpper name ∈ keyedInstructions) (distinct : m.Distinct) :
    builtin.line name (.mapping m) = builtin.line name (.mapping m.given) ∨
      Text.asciiUpper name = "FROM" ∧
        ∃ key other, (key, other) ∈ [("tag", "digest"), ("digest", "tag")] ∧
          m.MeetsNull key other ∧
          builtin.line name (.mapping m) = .error (.argumentsExclusive "FROM" key other) := by
  obtain ⟨h, hmem, hupper, hshape, hcs⟩ := exists_keyed_handler _ hname
  refine (Converter.builtin_line_given hmem hupper hshape hcs distinct).imp_right ?_
  rintro ⟨c, hc, key, other, hexclusion, meets, hfail⟩
  obtain ⟨hfrom, hkeys⟩ := builtinHandlers_exclusions h hmem (key, other)
    (List.mem_filterMap.mpr ⟨c, hc, hexclusion⟩)
  rw [hfrom] at hfail
  rw [builtinHandlers_instruction h hmem, hupper] at hfrom
  exact ⟨hfrom, key, other, hkeys, meets, hfail⟩

/-- A command whose parameters were left blank has none. -/
theorem null_entry_absent_blankParams :
    Text.asciiUpper "run" ∈ keyedInstructions ∧
      Mapping.Distinct (α := Value) ⟨[("executable", .string "ls"), ("params", .null)]⟩ ∧
      builtin.line "run" (.mapping ⟨[("executable", .string "ls"), ("params", .null)]⟩) =
        builtin.line "run" (.mapping ⟨[("executable", .string "ls")]⟩) := by
  have hname : Text.asciiUpper "run" ∈ keyedInstructions := by decide
  have distinct : Mapping.Distinct (α := Value)
      ⟨[("executable", .string "ls"), ("params", .null)]⟩ := by
    unfold Mapping.Distinct
    decide
  refine ⟨hname, distinct, ?_⟩
  rcases null_entry_absent_or_excluding hname distinct with hsame | ⟨hfrom, -⟩
  · exact hsame
  · exact absurd hfrom (by decide)

/-- A tag is refused for a digest that was left blank: without the entry there is a line. -/
theorem null_digest_excludes_tag :
    ¬ ∀ m : Mapping Value, m.Distinct → m.entries ≠ [] →
      builtin.line "FROM" (.mapping m) = builtin.line "FROM" (.mapping m.given) := by
  intro absent
  have hwith : builtin.line "FROM"
      (.mapping ⟨[("image", .string "a"), ("tag", .string "1"), ("digest", .null)]⟩) =
        .error (.argumentsExclusive "FROM" "tag" "digest") :=
    Results.eq_error_of_error? (by decide)
  have hwithout : builtin.line "FROM"
      (.mapping ⟨[("image", .string "a"), ("tag", .string "1")]⟩) = .ok "FROM a:1" :=
    Results.eq_ok_of_toOption (by decide)
  have hsame := absent ⟨[("image", .string "a"), ("tag", .string "1"), ("digest", .null)]⟩
    (by unfold Mapping.Distinct; decide) (List.cons_ne_nil _ _)
  rw [hwith] at hsame
  exact nomatch hsame.trans hwithout

end ImageRecipe
