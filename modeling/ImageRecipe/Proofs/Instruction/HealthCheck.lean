import Mathlib.Data.List.Forall2
import ImageRecipe.Proofs.Instruction.Builtin

/-!
# Health checks

The line of a health check is the line of its command behind the flags of its options.  What is
wrong is found out in this order: the command is not there or can be none, the options cannot be
flags, the command has no line.

* `FlagOf` : how an option is written
* `Mapping.commandError?`, `Mapping.optionsError?` : what is wrong before the command is converted
* `exists_flags`, `joinPresent_flags` : what is written of the options
* `line_healthcheck` : the first of these errors, or else the line of the command behind the flags
-/

namespace ImageRecipe

open Converter (builtin)

/-! ## Options -/

/-- How an option is written: behind two dashes, unless its key starts with them already, and with
the text of its value. -/
inductive FlagOf : String × Value → String → Prop where
  | bare {key text : String} {v : Value} : key.startsWith "--" = false →
      v.scalarText? = some text → FlagOf (key, v) ("--" ++ key ++ "=" ++ text)
  | dashed {key text : String} {v : Value} : key.startsWith "--" = true →
      v.scalarText? = some text → FlagOf (key, v) (key ++ "=" ++ text)

theorem FlagOf.ne_empty {option : String × Value} {flag : String} (h : FlagOf option flag) :
    flag ≠ "" := by
  cases h with
  | bare _ _ => simp
  | dashed _ _ => simp

/-- The flag that is written for an option. -/
theorem flagOf_flag {key text : String} {v : Value} (htext : v.scalarText? = some text) :
    FlagOf (key, v) (Body.flag (key, text)) := by
  cases hdashes : key.startsWith "--" with
  | false =>
      rw [Body.flag, hdashes]
      exact .bare hdashes htext
  | true =>
      rw [Body.flag, hdashes]
      exact .dashed hdashes htext

namespace Mapping

variable (m : Mapping Value)

/-- The options of a health check, in their order. -/
def options : List (String × Value) :=
  match m.get? "options" with
  | some (.mapping given) => given.entries
  | _ => []

/-- What is wrong with the command of a health check before it is converted. -/
def commandError? : Option InstructionError :=
  match m.get? "cmd" with
  | none | some .null => some (.argumentMissing "HEALTHCHECK" "cmd" Usage.healthcheck)
  | some (.string _) | some (.sequence _) | some (.mapping _) => none
  | some other =>
    some (.argumentType "HEALTHCHECK" "cmd" "string or sequence or mapping" other.kind)

/-- What is wrong with the options of a health check: they are no mapping, or the value of one of
them, of which the first counts, is a collection. -/
def optionsError? : Option InstructionError :=
  match m.get? "options" with
  | none | some .null => none
  | some (.mapping given) =>
    (given.entries.find? fun option => option.2.isCollection).map fun option =>
      .argumentType "HEALTHCHECK" option.1 "scalar" option.2.kind
  | some other => some (.argumentType "HEALTHCHECK" "options" "mapping" other.kind)

end Mapping

/-- The flags of a call are those of the options, with single spaces. -/
theorem exists_flags {call : Call} {m : Mapping Value} {text : String}
    (h : Body.flags call (m.get? "options") = .ok text) :
    ∃ flags, List.Forall₂ FlagOf m.options flags ∧ text = Layout.joinWith " " flags := by
  unfold Body.flags at h
  split at h
  · rename_i given hgiven
    obtain ⟨pairs, hpairs, rfl⟩ := Results.of_map h
    have hentries : List.Forall₂
        (fun (e : String × Value) (p : String × String) => (e.1, e.2.scalarText?) = (p.1, some p.2))
          given.entries pairs := by
      have htexts := call.scalarPairs_eq_ok_iff.mp hpairs
      rwa [← List.forall₂_eq_eq_eq, List.forall₂_map_left_iff, List.forall₂_map_right_iff]
        at htexts
    refine ⟨pairs.map Body.flag, ?_, rfl⟩
    rw [Mapping.options, hgiven, List.forall₂_map_right_iff]
    refine hentries.imp fun option pair hpair => ?_
    obtain ⟨key, v⟩ := option
    obtain ⟨key', text⟩ := pair
    obtain ⟨rfl, htext⟩ := Prod.mk.inj hpair
    exact flagOf_flag htext
  · rename_i hnone
    cases h
    refine ⟨[], ?_, rfl⟩
    have hoptions : m.options = [] := by
      unfold Mapping.options
      split
      · rename_i given hgiven
        exact absurd hgiven (hnone given)
      · rfl
    rw [hoptions]
    exact .nil

/-- A space stands between flags and command if there are flags. -/
theorem joinPresent_flags {options : List (String × Value)} {flags : List String} {inner : String}
    (hflags : List.Forall₂ FlagOf options flags) (hinner : inner ≠ "") :
    Layout.joinPresent " " [some (Layout.joinWith " " flags), some inner] =
      Layout.joinWith " " flags ++ (if flags = [] then "" else " ") ++ inner := by
  cases hflags with
  | nil =>
      simp [Layout.joinPresent, Layout.Parts.join, Layout.presentParts, Layout.joinWith, hinner]
  | @cons option flag options flags hflag _ =>
      -- a flag has at least its sign, so that flags are never left out as an empty part
      have hne : Layout.joinWith " " (flag :: flags) ≠ "" := by
        cases flags with
        | nil => exact hflag.ne_empty
        | cons second rest => simp [Layout.joinWith]
      rw [Layout.joinPresent_pair " " hne hinner, if_neg (List.cons_ne_nil flag flags)]

/-! ## Lines -/

theorem exists_healthcheck_handler : ∃ h ∈ builtinHandlers, h.name = "HEALTHCHECK" ∧
    h.shape = .mapping ∧ h.usage = Usage.healthcheck ∧ h.body = .healthcheck ∧
    h.constraints = [.requiredKey "cmd" [.string, .sequence, .mapping],
      .optionalKey "options" [.mapping] none] :=
  ⟨_, List.mem_append_right _ (List.mem_of_getElem? (i := 4) rfl), rfl, rfl, rfl, rfl, rfl⟩

/-- Whether there is a command is checked first. -/
theorem Constraint.apply_command (m : Mapping Value) (captures : Option Captures) :
    (requiredKey "cmd" [.string, .sequence, .mapping]).apply "HEALTHCHECK" Usage.healthcheck
        (.mapping m) captures =
      match m.commandError? with
      | some e => .error e
      | none => .ok captures := by
  simp only [apply, mappingFor, bind, Except.bind, givenKey?, Mapping.commandError?]
  cases m.get? "cmd" with
  | none => rfl
  | some v => cases v <;> rfl

/-- Options are checked for their shape, and then written one after the other. -/
theorem error?_options {h : Handler} (hinstruction : h.instruction = "HEALTHCHECK") (usage : String)
    (m : Mapping Value) :
    Results.error?
        (((Constraint.optionalKey "options" [.mapping] none).apply "HEALTHCHECK" usage (.mapping m)
          none).bind fun made => Body.flags (h.callFor (.mapping m) made) (m.get? "options")) =
      m.optionsError? := by
  simp only [Constraint.apply, Constraint.mappingFor, bind, Except.bind, Constraint.givenKey?,
    Mapping.optionsError?]
  cases m.get? "options" with
  | none => rfl
  | some v =>
      cases v with
      | mapping given =>
          show Results.error? ((Call.scalarPairs _ given.entries).map _) = _
          rw [Results.error?_map, Call.error?_scalarPairs]
          simp only [Call.mismatch, Handler.callFor, hinstruction]
      | null | bool _ | integer _ | float _ | string _ | sequence _ => rfl

/-- A command that is in order is there. -/
theorem Mapping.exists_command {m : Mapping Value} (h : m.commandError? = none) :
    ∃ command, m.get? "cmd" = some command := by
  cases hget : m.get? "cmd" with
  | none =>
      rw [commandError?, hget] at h
      cases h
  | some command => exact ⟨command, rfl⟩

/-- The error in the command comes first and those in the options next, whatever line the command
has.  If there are none, the health check has the line of its command behind the flags, or the
error of that. -/
theorem line_healthcheck {name : String} (hname : Text.asciiUpper name = "HEALTHCHECK")
    (m : Mapping Value) :
    (∀ e, m.commandError?.or m.optionsError? = some e →
      builtin.line name (.mapping m) = .error e) ∧
    (m.commandError?.or m.optionsError? = none →
      ∃ command flags, m.get? "cmd" = some command ∧ List.Forall₂ FlagOf m.options flags ∧
        builtin.line name (.mapping m) = (builtin.line "CMD" command).map fun inner =>
          "HEALTHCHECK " ++ Layout.joinPresent " "
            [some (Layout.joinWith " " flags), some inner]) := by
  obtain ⟨h, hmem, hown, hshape, husage, hb, hc⟩ := exists_healthcheck_handler
  have hinstruction : h.instruction = "HEALTHCHECK" :=
    (builtinHandlers_instruction h hmem).trans hown
  have hoptions := error?_options hinstruction Usage.healthcheck m
  have refused : ∀ (first : InstructionError) {P : Prop},
      (∀ e, some first = some e → (.error first : Except InstructionError String) = .error e) ∧
        (some first = none → P) :=
    fun first _ => ⟨fun _ he => congrArg Except.error (Option.some.inj he), nofun⟩
  have hlineOf : h.lineOf = ("HEALTHCHECK " ++ ·) := by
    funext text
    rw [Handler.lineOf, hinstruction]
    rfl
  rw [Converter.builtin_line_of_mem hmem (hown.trans hname.symm) (by rw [hshape]; rfl),
    Converter.validate_eq _ hc, hinstruction, husage, hlineOf, hb]
  simp only [Constraint.applyAll, Constraint.apply_command, Converter.carryOut_healthcheck]
  -- the command, the shape of the options and their texts: each of these may be the first to fail
  cases hcommand : m.commandError? with
  | some first => exact refused first
  | none =>
      obtain ⟨command, hget⟩ := Mapping.exists_command hcommand
      rw [Option.none_or, ← hoptions]
      simp only [hget]
      cases (Constraint.optionalKey "options" [.mapping] none).apply "HEALTHCHECK"
          Usage.healthcheck (.mapping m) none with
      | error first => exact refused first
      | ok made =>
          simp only [Call.mapping, Except.bind, Handler.callFor]
          cases hflags : Body.flags ⟨h.instruction, h.usage, .mapping m, made⟩
              (m.get? "options") with
          | error first => exact refused first
          | ok text =>
              obtain ⟨flags, hform, rfl⟩ := exists_flags hflags
              refine ⟨fun e he => (by cases he), fun _ => ⟨command, flags, rfl, hform, ?_⟩⟩
              simp only [hget]
              cases builtin.line "CMD" command with
              | error e => rfl
              | ok inner => rfl

end ImageRecipe
