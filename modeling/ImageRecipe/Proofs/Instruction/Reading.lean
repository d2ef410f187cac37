import ImageRecipe.Proofs.Instruction.Failure

/-!
# What bodies can rely on

Behind a checked definition and its constraints, a body reads its argument without failing: the
branches for an argument of another shape, for a mapping without entries, for a health check
without a command and for captures that were never made are there, but no conversion enters them.

* `Handler.ReadsArgument`, `builtinHandlers_readArgument` : what the built-in bodies can rely on
* `Constraint.accepts_iff_of_fault` : what a constraint of the wrong shape would let through
* `definition_check_guards` : check, dispatch, constraints and bodies together
-/

namespace ImageRecipe

open Converter

/-! ## Dispatch -/

/-- Dispatch hands a handler arguments of its shape only. -/
theorem HandlerTable.shape?_of_lookup {t : HandlerTable} {name : String} {v : Value} {shape : Shape}
    {h : Handler} (hshape : v.dispatchShape name = .ok shape)
    (hlookup : t.lookup name shape = .ok h) : v.shape? = some h.shape := by
  have hown : h.shape = shape := congrArg HandlerKey.shape (key_of_lookup hlookup)
  simp only [Value.dispatchShape] at hshape
  split at hshape
  · rename_i hv
    cases hshape
    rw [hv, hown]
  · cases hshape

/-! ## Constraints that are refused -/

namespace Constraint

variable {c : Constraint} {instruction usage : String} {v : Value} {captures : Option Captures}

/-- An argument of a shape for which the constraint is refused: it is let through only if the
constraint is about a key that excludes itself, and that is not given. -/
theorem accepts_iff_of_fault {shape : Shape} (hc : c.fault? shape ≠ none)
    (hv : v.shape? = some shape) :
    (∃ made, c.apply instruction usage v captures = .ok made) ↔
      ∃ key shapes m, c = .optionalKey key shapes (some key) ∧ v = .mapping m ∧
        givenKey? m key = none := by
  rw [ne_eq, fault?_eq_none_iff] at hc
  constructor
  · rintro ⟨made, h⟩
    exact eq_optionalKey_of_not_suits hc hv h
  · rintro ⟨key, shapes, m, rfl, rfl, hgiven⟩
    have hnull := givenKey?_eq_none_iff.mp hgiven
    exact ⟨captures, apply_optionalKey.mpr
      ⟨fun w hw => .inl (hnull w hw), fun _ _ w hw => .inl (hnull w hw), rfl⟩⟩

/-- Behind a list of constraints, each of them has accepted. -/
theorem accepts_of_applyAll {cs : List Constraint} {made : Option Captures}
    (h : applyAll instruction usage v captures cs = .ok made) (hc : c ∈ cs) :
    ∃ before after, c.apply instruction usage v before = .ok after := by
  induction cs generalizing captures with
  | nil => cases hc
  | cons d rest ih =>
      obtain ⟨between, hd, hrest⟩ := applyAll_cons_iff.mp h
      rcases List.mem_cons.mp hc with rfl | hc
      · exact ⟨captures, between, hd⟩
      · exact ih hrest hc

/-- The constraint wants a value under the key. -/
def requiresKey (key : String) : Constraint → Bool
  | .requiredKey k _ => k == key
  | _ => false

theorem get?_of_requiresKey {key : String} {made : Option Captures}
    (hkey : c.requiresKey key = true) (h : c.apply instruction usage v captures = .ok made) :
    ∃ m found, v = .mapping m ∧ m.get? key = some found := by
  cases c with
  | requiredKey k shapes =>
      obtain rfl : k = key := by simpa [requiresKey] using hkey
      obtain ⟨m, rfl⟩ := (of_apply h).1
      cases hgiven : givenKey? m k with
      | none =>
          simp only [apply, mappingFor, bind, Except.bind, hgiven] at h
          cases h
      | some found => exact ⟨m, found, rfl, (givenKey?_eq_some_iff.mp hgiven).1⟩
  | _ => cases hkey

/-- The constraint wants exactly one member. -/
def wantsOneMember : Constraint → Bool
  | .members _ 1 => true
  | _ => false

theorem entry_of_wantsOneMember {m : Mapping Value} {made : Option Captures}
    (hone : c.wantsOneMember = true)
    (h : c.apply instruction usage (.mapping m) captures = .ok made) :
    ∃ entry, m.entries = [entry] := by
  unfold wantsOneMember at hone
  split at hone
  · exact List.length_eq_one_iff.mp (apply_members.mp h).1
  · cases hone

end Constraint

/-! ## Bodies -/

/-- What the body of a built-in handler can rely on behind the constraints. -/
structure Handler.ReadsArgument (h : Handler) (v : Value) (captures : Option Captures) : Prop where
  text : h.shape = .string → ∃ s, (h.callFor v captures).text = .ok s
  integer : h.shape = .integer → ∃ n, (h.callFor v captures).integer = .ok n
  sequence : h.shape = .sequence → ∃ items, (h.callFor v captures).sequence = .ok items
  mapping : h.shape = .mapping → ∃ m, (h.callFor v captures).mapping = .ok m
  /-- Where one entry is read, there is one. -/
  entry : h.key ∈ [⟨"ARG", .mapping⟩, ⟨"ONBUILD", .mapping⟩] →
    ∀ argument, ∃ entry, (h.callFor v captures).onlyEntry argument = .ok entry
  /-- A health check that is not null has a command. -/
  command : h.key = ⟨"HEALTHCHECK", .mapping⟩ →
    ∃ m found, v = .mapping m ∧ m.get? "cmd" = some found
  /-- So no body fails but at a scalar, at a name that cannot be nested, or as the instruction
  inside does. -/
  failures : ∀ e, builtin.carryOut (h.body (h.callFor v captures)) = .error e →
    BodyError h.instruction v e ∨ InnerFailure h.instruction v e

theorem builtinHandlers_readArgument {h : Handler} (hmem : h ∈ builtinHandlers) {v : Value}
    {captures : Option Captures} (hv : v.shape? = some h.shape)
    (hvalid : h.validate v = .ok captures) : h.ReadsArgument v captures := by
  -- that the right constraints are declared is read off the closed list of handlers
  have hentry : ∀ g ∈ builtinHandlers, g.key ∈ [⟨"ARG", .mapping⟩, ⟨"ONBUILD", .mapping⟩] →
      g.constraints.any Constraint.wantsOneMember = true := by decide +kernel
  have hcommand : ∀ g ∈ builtinHandlers, g.key = ⟨"HEALTHCHECK", .mapping⟩ →
      g.constraints.any (Constraint.requiresKey "cmd") = true := by decide
  refine ⟨?_, ?_, ?_, ?_, ?_, ?_, builtinHandlers_traceFailures h hmem hv captures hvalid⟩
  · intro hshape
    obtain ⟨s, rfl⟩ := Value.shape?_eq_string (hshape ▸ hv)
    exact ⟨s, rfl⟩
  · intro hshape
    obtain ⟨n, rfl⟩ := Value.shape?_eq_integer (hshape ▸ hv)
    exact ⟨n, rfl⟩
  · intro hshape
    obtain ⟨items, rfl⟩ := Value.shape?_eq_sequence (hshape ▸ hv)
    exact ⟨items, rfl⟩
  · intro hshape
    obtain ⟨m, rfl⟩ := Value.shape?_eq_mapping (hshape ▸ hv)
    exact ⟨m, rfl⟩
  · intro hkey argument
    have hshape : h.shape = .mapping := by
      simp only [List.mem_cons, List.not_mem_nil, or_false] at hkey
      exact hkey.elim (congrArg HandlerKey.shape) (congrArg HandlerKey.shape)
    obtain ⟨m, rfl⟩ := Value.shape?_eq_mapping (hshape ▸ hv)
    obtain ⟨c, hc, hone⟩ := List.any_eq_true.mp (hentry h hmem hkey)
    obtain ⟨_, _, haccepts⟩ := Constraint.accepts_of_applyAll hvalid hc
    obtain ⟨entry, hentries⟩ := Constraint.entry_of_wantsOneMember hone haccepts
    refine ⟨entry, ?_⟩
    simp only [Call.onlyEntry, Call.mapping, Handler.callFor, Mapping.first?, hentries,
      List.head?_cons]
  · intro hkey
    obtain ⟨c, hc, hrequires⟩ := List.any_eq_true.mp (hcommand h hmem hkey)
    obtain ⟨_, _, haccepts⟩ := Constraint.accepts_of_applyAll hvalid hc
    exact Constraint.get?_of_requiresKey hrequires haccepts

/-- The built-in definitions pass the check. -/
theorem builtinHandlers_checked : ∀ h ∈ builtinHandlers, h.checkDefinition = .ok () := by
  have hsome : ∀ h ∈ builtinHandlers, h.checkDefinition.toOption = some () := by decide +kernel
  exact fun h hmem => Results.eq_ok_of_toOption (hsome h hmem)

/-! ## Check and call -/

/-- The check of definitions guards the calls: behind it constraints and bodies find what they
read, and what it refuses would let no argument through but where a key excludes itself. -/
theorem definition_check_guards :
    (∀ (t : HandlerTable) (name : String) (v : Value) (shape : Shape) (h : Handler),
      v.dispatchShape name = .ok shape → t.lookup name shape = .ok h → v.shape? = some h.shape) ∧
    (∀ (h : Handler) (v : Value), h.checkDefinition = .ok () → v.shape? = some h.shape →
      h.Guarded v) ∧
    (∀ h ∈ builtinHandlers, h.checkDefinition = .ok () ∧ ∀ v captures,
      v.shape? = some h.shape → h.validate v = .ok captures → h.ReadsArgument v captures) ∧
    (∀ name v e, builtin.line name v = .error e → ∀ instruction fault,
      e ≠ .definition instruction fault) ∧
    (∀ (c : Constraint) (shape : Shape) (instruction usage : String) (v : Value)
        (captures : Option Captures),
      c.checkDefinition instruction shape false ≠ .ok () → v.shape? = some shape →
        ((∃ made, c.apply instruction usage v captures = .ok made) ↔
          ∃ key shapes m, c = .optionalKey key shapes (some key) ∧ v = .mapping m ∧
            Constraint.givenKey? m key = none)) := by
  refine ⟨fun _ _ _ _ _ => HandlerTable.shape?_of_lookup,
    fun _ _ hcheck => Handler.guarded_of_checkDefinition hcheck,
    fun h hmem => ⟨builtinHandlers_checked h hmem, fun _ _ => builtinHandlers_readArgument hmem⟩,
    fun name v e hline => ?_, fun c shape instruction usage v captures hrefused hv => ?_⟩
  · obtain ⟨_, _, hraised⟩ := raised_of_line hline
    exact hraised.ne_definition
  · refine Constraint.accepts_iff_of_fault (fun hnone => hrefused ?_) hv
    simp only [Constraint.checkDefinition, hnone, Bool.false_eq_true, if_false]

/-- A key that excludes itself is refused, though a mapping without the key would pass. -/
theorem selfExcluding_refused_and_accepts :
    (Constraint.optionalKey "tag" [.string] (some "tag")).checkDefinition "FROM" .mapping false =
        .error (.definition "FROM" (.excludesItself "tag")) ∧
      ∃ made, (Constraint.optionalKey "tag" [.string] (some "tag")).apply "FROM" Usage.imageMapping
        (.mapping .empty) none = .ok made := by
  have hrefused : (Constraint.optionalKey "tag" [.string] (some "tag")).checkDefinition "FROM"
      .mapping false = .error (.definition "FROM" (.excludesItself "tag")) := rfl
  have haccepts := definition_check_guards.2.2.2.2
    (.optionalKey "tag" [.string] (some "tag")) .mapping "FROM" Usage.imageMapping
    (.mapping .empty) none (by rw [hrefused]; exact nofun) rfl
  exact ⟨hrefused, haccepts.mpr ⟨"tag", [.string], .empty, rfl, rfl, rfl⟩⟩

end ImageRecipe
