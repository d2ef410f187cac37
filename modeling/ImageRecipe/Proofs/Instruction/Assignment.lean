import Mathlib.Logic.ExistsUnique
import ImageRecipe.Proofs.Instruction.Builtin

/-!
# Arguments of the build

An argument of the build has a name and perhaps a default.  It is given as a text, with an equals
sign between the two, or as a mapping with one entry.  One handler takes the text apart by a
pattern, the other reads the entry; both put the same parts together.

* `Assigns`, `Assigns.unique` : a text and its parts; the name ends at the first sign
* `Assigns.match?_eq`, `assignment_isSome_iff_unique` : the pattern captures just these parts
* `line_argumentText`, `line_argumentMapping` : either line, from what the handler reads
* `assignment_forms_agree` : which texts are accepted, and that the two forms agree
-/

namespace ImageRecipe

open Converter (builtin)

/-! ## Parts -/

/-- The text is a name alone, or a name, an equals sign and a default that stays on one line.  A
name is made of ASCII letters, digits and underscores, and begins with no digit. -/
inductive Assigns : String → String → Option String → Prop where
  | name {name : String} : Pattern.NameForm .identifier name.toList → Assigns name name none
  | default {name value : String} : Pattern.NameForm .identifier name.toList →
      '\n' ∉ value.toList → Assigns (name ++ "=" ++ value) name (some value)

namespace Assigns

variable {s name : String} {default : Option String}

/-- What is captured of the parts. -/
def captures (name : String) (default : Option String) : Captures :=
  ⟨("name", name) :: (default.map ("default", ·)).toList⟩

theorem nameForm (h : Assigns s name default) : Pattern.NameForm .identifier name.toList := by
  cases h with
  | name hname => exact hname
  | default hname _ => exact hname

theorem name_ne_empty (h : Assigns s name default) : name ≠ "" := by
  rintro rfl
  exact h.nameForm.ne_nil rfl

/-- Parts of a text are captured of it. -/
theorem match?_eq (h : Assigns s name default) :
    (Pattern.assignment .identifier).match? s = some (captures name default) := by
  cases h with
  | name hname =>
      simp [Pattern.assignment, Pattern.splitAssignment?_name hname, captures]
  | @default _ value hname hvalue =>
      have hparts : (name ++ "=" ++ value).toList = name.toList ++ '=' :: value.toList := by simp
      simp only [Pattern.assignment, hparts, Pattern.splitAssignment?_default hname hvalue]
      simp [captures]

theorem ne_empty (h : Assigns s name default) : s ≠ "" := by
  rintro rfl
  have hmatch : (Pattern.assignment .identifier).match? "" = some (captures name default) :=
    h.match?_eq
  cases hmatch

/-- A text has only one name and one default: a default may have signs in it, a name may not. -/
theorem unique {name' : String} {default' : Option String} (h : Assigns s name default)
    (h' : Assigns s name' default') : name' = name ∧ default' = default := by
  have hsame : captures name' default' = captures name default :=
    Option.some.inj (h'.match?_eq.symm.trans h.match?_eq)
  cases default <;> cases default' <;> simp_all [captures]

/-- Put together again, the parts are the text, but for a sign with nothing behind it. -/
theorem joinPresent_eq (h : Assigns s name default) :
    Layout.joinPresent Layout.keyValueDelimiter [some name, default] =
      if default = some "" then name else s := by
  have hne := h.name_ne_empty
  cases h with
  | name =>
      rw [Layout.joinPresent_single, if_neg nofun]
  | @default _ value =>
      by_cases hvalue : value = ""
      · rw [hvalue, Layout.joinPresent_empty, if_pos rfl]
      · rw [Layout.joinPresent_pair _ hne hvalue, if_neg (by simpa using hvalue)]
        rfl

end Assigns

/-- The pattern matches the texts that have parts, and no text has them in two ways. -/
theorem assignment_isSome_iff_unique {s : String} :
    ((Pattern.assignment .identifier).match? s).isSome = true ↔
      ∃! parts : String × Option String, Assigns s parts.1 parts.2 := by
  constructor
  · intro hmatch
    obtain ⟨parts, hparts⟩ : ∃ parts : String × Option String, Assigns s parts.1 parts.2 := by
      obtain ⟨name, tail, hs, hname, htail⟩ := Pattern.assignment_match?_isSome_iff.mp hmatch
      rw [← String.toList_ofList (l := name)] at hname
      rcases htail with rfl | ⟨value, rfl, hvalue⟩
      · have hwhole : s = String.ofList name := String.toList_inj.mp (by simp [hs])
        rw [hwhole]
        exact ⟨(_, none), .name hname⟩
      · have hwhole : s = String.ofList name ++ "=" ++ String.ofList value :=
          String.toList_inj.mp (by simp [hs])
        rw [hwhole]
        exact ⟨(_, some _), .default hname (by rwa [String.toList_ofList])⟩
    refine ⟨parts, hparts, ?_⟩
    intro others hothers
    obtain ⟨hname, hdefault⟩ := hparts.unique hothers
    exact Prod.ext hname hdefault
  · rintro ⟨parts, hparts, -⟩
    rw [hparts.match?_eq]
    rfl

/-! ## Lines -/

theorem exists_argumentText_handler : ∃ h ∈ builtinHandlers, h.name = "ARG" ∧ h.shape = .string ∧
    h.usage = Usage.argumentText ∧ h.body = .argumentText ∧
    h.constraints = [.required "name" .string, .pattern "name" (.assignment .identifier)] :=
  ⟨_, List.mem_append_left _ (List.mem_append_right _ (List.mem_of_getElem? (i := 5) rfl)),
    rfl, rfl, rfl, rfl, rfl⟩

theorem exists_argumentMapping_handler : ∃ h ∈ builtinHandlers, h.name = "ARG" ∧
    h.shape = .mapping ∧ h.body = .argumentMapping ∧ h.constraints = [.members "name" 1] :=
  ⟨_, List.mem_append_left _ (List.mem_append_right _ (List.mem_of_getElem? (i := 6) rfl)),
    rfl, rfl, rfl, rfl⟩

section Lines

variable {name : String} (hname : Text.asciiUpper name = "ARG")

include hname

/-- The line of a text is made of its groups. -/
theorem line_argumentText (s : String) :
    builtin.line name (.string s) =
      if s = "" then .error (.argumentMissing "ARG" "name" Usage.argumentText)
      else match (Pattern.assignment .identifier).match? s with
        | none => .error (.patternMismatch "ARG" "name" s (Pattern.assignment .identifier).source)
        | some captures =>
          .ok ("ARG " ++ Layout.joinPresent Layout.keyValueDelimiter
            [captures.get? "name", captures.get? "default"]) := by
  obtain ⟨h, hmem, hown, hshape, husage, hbody, hc⟩ := exists_argumentText_handler
  have hinstruction : h.instruction = "ARG" := (builtinHandlers_instruction h hmem).trans hown
  rw [Converter.builtin_line_of_mem hmem (hown.trans hname.symm) (by rw [hshape]; rfl),
    Converter.validate_pattern hc, hinstruction, husage]
  by_cases hs : s = ""
  · rw [if_pos hs, if_pos hs]
  rw [if_neg hs, if_neg hs]
  cases (Pattern.assignment .identifier).match? s with
  | none => rfl
  | some captures =>
      simp only [hbody, Body.argumentText, Converter.carryOut_pure, Call.capturesOrError,
        Handler.callFor, Except.map, Handler.lineOf, hinstruction]
      rfl

/-- The line of an entry is made of its key and its value; a null value is none. -/
theorem line_argumentMapping (key : String) (default : Option String) :
    builtin.line name (.mapping ⟨[(key, default.elim .null .string)]⟩) =
      .ok ("ARG " ++ Layout.joinPresent Layout.keyValueDelimiter [some key, default]) := by
  obtain ⟨h, hmem, hown, hshape, hbody, hc⟩ := exists_argumentMapping_handler
  have hinstruction : h.instruction = "ARG" := (builtinHandlers_instruction h hmem).trans hown
  have hvalid : h.validate (.mapping ⟨[(key, default.elim .null .string)]⟩) = .ok none :=
    (Converter.validate_members hc).mpr ⟨⟨key, _, rfl⟩, rfl⟩
  rw [Converter.builtin_line_of_mem hmem (hown.trans hname.symm) (by rw [hshape]; rfl), hvalid]
  simp only [hbody, Converter.carryOut_argumentMapping, Call.onlyEntry, Call.mapping,
    Handler.callFor, Mapping.first?, List.head?_cons, Except.bind]
  cases default with
  | none =>
      simp only [Option.elim_none, Value.given?, Call.optionalScalar, Except.map, Handler.lineOf,
        hinstruction]
      rfl
  | some value =>
      simp only [Option.elim_some, Value.given?, Call.optionalScalar, Call.scalar,
        Value.scalarText?, Except.map, Handler.lineOf, hinstruction]
      rfl

/-- A text is accepted as an argument of the build if and only if it is a name, or a name and a
default behind a sign, which it can be in one way only.  Its line is the text, or the name alone if
the default is empty; and so is the line of the mapping with the name as its one key, and the
default, or null if there is no sign, as the value.  A text that is not accepted is empty, or it
does not match the pattern. -/
theorem assignment_forms_agree (s : String) :
    ((∃ line, builtin.line name (.string s) = .ok line) ↔
      ∃! parts : String × Option String, Assigns s parts.1 parts.2) ∧
    (∀ key default, Assigns s key default →
      builtin.line name (.string s) = .ok ("ARG " ++ if default = some "" then key else s) ∧
      builtin.line name (.mapping ⟨[(key, default.elim .null .string)]⟩) =
        builtin.line name (.string s)) ∧
    ∀ e, builtin.line name (.string s) = .error e →
      e = if s = "" then .argumentMissing "ARG" "name" Usage.argumentText
        else .patternMismatch "ARG" "name" s (Pattern.assignment .identifier).source := by
  have hline := line_argumentText hname s
  refine ⟨?_, ?_, ?_⟩
  · rw [← assignment_isSome_iff_unique, hline]
    by_cases hs : s = ""
    · rw [if_pos hs, hs]
      exact iff_of_false (by rintro ⟨line, ⟨⟩⟩) (by decide)
    · rw [if_neg hs]
      cases (Pattern.assignment .identifier).match? s with
      | none => exact iff_of_false (by rintro ⟨line, ⟨⟩⟩) (by simp)
      | some captures => exact iff_of_true ⟨_, rfl⟩ rfl
  · intro key default h
    have htext : builtin.line name (.string s) =
        .ok ("ARG " ++ Layout.joinPresent Layout.keyValueDelimiter [some key, default]) := by
      rw [hline, if_neg h.ne_empty, h.match?_eq]
      cases default <;> rfl
    refine ⟨?_, ?_⟩
    · rw [htext, h.joinPresent_eq]
    · rw [htext, line_argumentMapping hname]
  · intro e he
    rw [hline] at he
    by_cases hs : s = ""
    · rw [if_pos hs] at he ⊢
      exact (Except.error.inj he).symm
    · rw [if_neg hs] at he ⊢
      cases hmatch : (Pattern.assignment .identifier).match? s with
      | none =>
          rw [hmatch] at he
          exact (Except.error.inj he).symm
      | some captures =>
          rw [hmatch] at he
          cases he

end Lines

/-- A default with a sign, a letter that is not ASCII and a carriage return in it. -/
theorem assignment_forms_agree_signs :
    Text.asciiUpper "Arg" = "ARG" ∧ Assigns "_u1=a=é\r" "_u1" (some "a=é\r") ∧
      builtin.line "Arg" (.string "_u1=a=é\r") = .ok "ARG _u1=a=é\r" ∧
      builtin.line "Arg" (.mapping ⟨[("_u1", .string "a=é\r")]⟩) =
        builtin.line "Arg" (.string "_u1=a=é\r") := by
  have hname : Text.asciiUpper "Arg" = "ARG" := by decide
  have hform : Pattern.NameForm .identifier "_u1".toList :=
    ⟨'_', ['u', '1'], rfl, by decide, List.all_eq_true.mp (by decide)⟩
  have hwhole : "_u1" ++ "=" ++ "a=é\r" = "_u1=a=é\r" := by decide
  have hparts : Assigns "_u1=a=é\r" "_u1" (some "a=é\r") :=
    hwhole ▸ .default hform (by decide)
  obtain ⟨hline, hsame⟩ := (assignment_forms_agree hname "_u1=a=é\r").2.1 _ _ hparts
  exact ⟨hname, hparts, hline, hsame⟩

end ImageRecipe
