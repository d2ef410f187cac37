import ImageRecipe.Proofs.Instruction.ExecForm
import ImageRecipe.Proofs.Instruction.Kind

/-!
# Arguments written as empty arrays

Every form of argument that is written as an array has at least one item, with one exception: the
shell given as a text asks for a text that is not empty, but makes its array of the words, and a
text of blanks has none.

* `Body.jsonArray_eq_empty_iff` : the array without items is the only one that is written `[]`
* `Text.wordsOf_eq_nil_iff` : what has no words
* `line_shellText`, `line_shellSequence` : the two forms of the shell
* `exec_array_empty_for_blanks_only` : which lines end in an empty array
* `shell_of_blanks` : one of them
-/

namespace ImageRecipe

open Converter (builtin)

/-! ## Empty arrays -/

/-- An array is written without anything between its brackets only if it has no items. -/
theorem Body.jsonArray_eq_empty_iff {items : List Value} : jsonArray items = "[]" ↔ items = [] := by
  constructor
  · intro h
    have hchars : '[' :: (Json.spacedItems [' '] (Value.itemsToJson items) ++ [']']) =
        ['[', ']'] := by
      rw [← toList_jsonArray, h]
      rfl
    have hinside : Json.spacedItems [' '] (Value.itemsToJson items) = [] := by simpa using hchars
    match items with
    | [] => rfl
    | [item] => exact absurd hinside (Json.chars_ne_nil _)
    | item :: next :: rest =>
        rw [Value.itemsToJson, Value.itemsToJson, Json.spacedItems] at hinside
        simp at hinside
  · rintro rfl
    rfl

namespace Text

/-- There are no words if there is nothing but blanks. -/
theorem wordsOf_eq_nil_iff {cs : List Char} : wordsOf cs = [] ↔ cs.all isBlank = true := by
  induction cs with
  | nil => exact iff_of_true rfl rfl
  | cons c rest ih =>
      by_cases hc : isBlank c = true
      · rw [wordsOf_blank hc, ih, List.all_cons, hc, Bool.true_and]
      · have hfront : wordsOf (c :: rest) ≠ [] := by simp [wordsOf, splitWords, hc, consWord]
        simp [hfront, hc]

end Text

/-- A text stands for no items if there is nothing but blanks in it. -/
theorem ExecItems.eq_nil_iff {s : String} {items : List Value} (h : ExecItems (.string s) items) :
    items = [] ↔ Text.isBlankText s = true := by
  cases h with
  | words hruns =>
      rw [List.map_eq_nil_iff, Text.maximalRuns_iff.mp hruns, Text.wordsOf_eq_nil_iff]
      rfl

/-! ## Arguments that are asked for -/

/-- Every built-in instruction that takes a sequence asks for one with items. -/
theorem ne_nil_of_line_sequence {name line : String} {items : List Value}
    (hline : builtin.line name (.sequence items) = .ok line) : items ≠ [] := by
  obtain ⟨h, hmem, -, hshape, captures, -, hvalid, -, -⟩ :=
    Converter.builtin_line_eq_ok_iff.mp hline
  have hs : h.shape = .sequence := (Option.some.inj hshape).symm
  have hc : ∃ argument, h.constraints = [.required argument .sequence] := by
    cases builtinHandlers_kind h hmem with
    | execSequence _ hc | quotedLines _ hc | spaceSeparated _ hc => exact ⟨_, hc⟩
    | verbatim hother | wordArray hother | imageText hother | argumentText hother
    | requiredInteger hother | bounds hother | execMapping hother | pairs hother
    | imageMapping hother | argumentMapping hother | trigger _ hother | noHealthcheck hother
    | healthcheck _ hother =>
        rw [hs] at hother
        cases hother
  obtain ⟨argument, hc⟩ := hc
  rw [Converter.validate_eq _ hc, Constraint.applyAll_cons_iff] at hvalid
  obtain ⟨between, hrequired, -⟩ := hvalid
  simpa [Value.truthy] using (Constraint.apply_required.mp hrequired).1

/-- Of an argument that is written as an array there is a line if the handler takes it, and the
items say which. -/
theorem exec_line_eq_ok_iff {name line : String} {v : Value} {h : Handler} {items : List Value}
    (hmem : h ∈ builtinHandlers) (hname : h.name = Text.asciiUpper name)
    (hshape : v.shape? = some h.shape) (hform : (h.name, h.shape) ∈ execForms)
    (hitems : ExecItems v items) :
    builtin.line name v = .ok line ↔
      builtin.Takes h v ∧ line = h.name ++ " " ++ Body.jsonArray items := by
  have hwritten : ∀ {line : String}, builtin.line name v = .ok line →
      line = h.name ++ " " ++ Body.jsonArray items := by
    intro line hline
    rw [hname] at hform ⊢
    obtain ⟨others, hothers, rfl⟩ := exec_line hform hshape hline
    rw [hitems.unique hothers]
  constructor
  · intro hline
    obtain ⟨captures, text, hvalid, htext, -⟩ :=
      Converter.of_builtin_line hmem hname hshape hline
    exact ⟨⟨captures, text, hvalid, htext⟩, hwritten hline⟩
  · rintro ⟨htakes, rfl⟩
    obtain ⟨made, hmade⟩ :=
      Converter.builtin_line_isOk_iff.mpr ⟨h, hmem, hname, hshape, htakes⟩
    rw [hmade, hwritten hmade]

/-! ## The shell -/

section Shell

variable {name : String} (hname : Text.asciiUpper name = "SHELL")

include hname

/-- As a text the shell has to be given, and its line has the words of the text. -/
theorem line_shellText {s line : String} {items : List Value}
    (hitems : ExecItems (.string s) items) :
    builtin.line name (.string s) = .ok line ↔
      s ≠ "" ∧ line = "SHELL " ++ Body.jsonArray items := by
  have hmem : stringHandler "SHELL" Usage.shellText "command" .wordArray ∈ builtinHandlers := by
    simp [builtinHandlers, runtimeHandlers]
  have hform : ("SHELL", Shape.string) ∈ execForms := by decide
  rw [exec_line_eq_ok_iff hmem hname.symm rfl hform hitems,
    Converter.takes_stringHandler fun _ h => Converter.makes_wordArray h]
  rfl

/-- As a sequence it has to have items, and its line has just these. -/
theorem line_shellSequence {items : List Value} {line : String} :
    builtin.line name (.sequence items) = .ok line ↔
      items ≠ [] ∧ line = "SHELL " ++ Body.jsonArray items := by
  have hmem : sequenceHandler "SHELL" Usage.shellSequence "command" .execSequence ∈
      builtinHandlers := by
    simp [builtinHandlers, runtimeHandlers]
  have hform : ("SHELL", Shape.sequence) ∈ execForms := by decide
  rw [exec_line_eq_ok_iff hmem hname.symm rfl hform .sequence,
    Converter.takes_sequenceHandler fun _ h => Converter.makes_execSequence h, and_true]
  rfl

end Shell

/-! ## Lines with an empty array -/

/-- Only the shell is written as an empty array, and only if it is given as a text of blanks: all
other arguments that are written as arrays have an item.  And the text of a shell is accepted with
the line of the sequence of its words, or refused if that is, unless there are no words in it
though it is not empty. -/
theorem exec_array_empty_for_blanks_only (name : String) :
    (∀ {line : String} {v : Value} {shape : Shape},
      (Text.asciiUpper name, shape) ∈ execForms → v.shape? = some shape →
        builtin.line name v = .ok line →
          ∃ items, ExecItems v items ∧
            line = Text.asciiUpper name ++ " " ++ Body.jsonArray items ∧
            (items ≠ [] ∧ line ≠ Text.asciiUpper name ++ " []" ∨
              Text.asciiUpper name = "SHELL" ∧ line = "SHELL []" ∧
                ∃ s, v = .string s ∧ s ≠ "" ∧ Text.isBlankText s = true)) ∧
    ∀ {s : String}, Text.asciiUpper name = "SHELL" →
      ∃ words, ExecItems (.string s) words ∧
        (s = "" ∨ Text.isBlankText s = false → ∀ line,
          builtin.line name (.string s) = .ok line ↔
            builtin.line name (.sequence words) = .ok line) ∧
        (s ≠ "" → Text.isBlankText s = true →
          builtin.line name (.string s) = .ok "SHELL []" ∧
            ∀ line, builtin.line name (.sequence words) ≠ .ok line) := by
  constructor
  · intro line v shape hform hshape hline
    obtain ⟨items, hitems, hwritten⟩ := exec_line hform hshape hline
    refine ⟨items, hitems, hwritten, ?_⟩
    by_cases hnil : items = []
    · right
      cases hitems with
      | sequence => exact absurd hnil (ne_nil_of_line_sequence hline)
      | executable => cases hnil
      | params => cases hnil
      | words hruns =>
          cases hshape
          have hname : Text.asciiUpper name = "SHELL" := by simpa [execForms] using hform
          obtain ⟨hs, -⟩ := (line_shellText hname (.words hruns)).mp hline
          have hblank := (ExecItems.words hruns).eq_nil_iff.mp hnil
          refine ⟨hname, ?_, _, rfl, hs, hblank⟩
          rw [hwritten, hname, hnil]
          rfl
    · left
      refine ⟨hnil, fun heq => hnil ?_⟩
      have hbrackets : Text.asciiUpper name ++ " []" = Text.asciiUpper name ++ " " ++ "[]" := by
        rw [String.append_assoc]
        rfl
      rw [hwritten, hbrackets, String.append_right_inj] at heq
      exact Body.jsonArray_eq_empty_iff.mp heq
  · intro s hname
    have hwords : ExecItems (.string s) _ := .words (Text.maximalRuns_iff.mpr rfl)
    refine ⟨_, hwords, fun hs line => ?_, fun hs hblank => ⟨?_, fun line hline => ?_⟩⟩
    · rw [line_shellText hname hwords, line_shellSequence hname, ne_eq, ne_eq, hwords.eq_nil_iff]
      have hsame : s = "" ↔ Text.isBlankText s = true := by
        rcases hs with rfl | hs
        · exact iff_of_true rfl rfl
        · refine iff_of_false ?_ (by rw [hs]; decide)
          rintro rfl
          cases hs
      rw [hsame]
    · rw [line_shellText hname hwords, hwords.eq_nil_iff.mpr hblank]
      exact ⟨hs, rfl⟩
    · exact ((line_shellSequence hname).mp hline).1 (hwords.eq_nil_iff.mpr hblank)

/-- A no-break space parts two words as a space does; a tab parts none. -/
theorem exec_array_empty_for_blanks_only_shell :
    (∃ words, ExecItems (.string "sh\u00a0-c") words ∧
      builtin.line "Shell" (.sequence words) = .ok "SHELL [\"sh\", \"-c\"]") ∧
    (∃ items, ExecItems (.string "\t") items ∧ Body.jsonArray items = "[]") ∧
    ∃ words, ExecItems (.string "\t") words ∧
      ∀ line, builtin.line "Shell" (.sequence words) ≠ .ok line := by
  obtain ⟨harrays, hshell⟩ := exec_array_empty_for_blanks_only "Shell"
  have hname : Text.asciiUpper "Shell" = "SHELL" := by decide
  have hform : (Text.asciiUpper "Shell", Shape.string) ∈ execForms := by decide +kernel
  have htext : builtin.line "Shell" (.string "sh\u00a0-c") = .ok "SHELL [\"sh\", \"-c\"]" :=
    Results.eq_ok_of_toOption (by decide +kernel)
  have htab : builtin.line "Shell" (.string "\t") = .ok "SHELL []" :=
    Results.eq_ok_of_toOption (by decide +kernel)
  refine ⟨?_, ?_, ?_⟩
  · obtain ⟨words, hwords, hsame, -⟩ := @hshell "sh\u00a0-c" hname
    exact ⟨words, hwords, (hsame (.inr (by decide)) _).mp htext⟩
  · obtain ⟨items, hitems, hwritten, -⟩ := harrays hform rfl htab
    refine ⟨items, hitems, ?_⟩
    rw [hname, show "SHELL []" = "SHELL" ++ " " ++ "[]" from rfl, String.append_right_inj]
      at hwritten
    exact hwritten.symm
  · obtain ⟨words, hwords, -, hrefused⟩ := @hshell "\t" hname
    exact ⟨words, hwords, (hrefused (by decide) (by decide)).2⟩

/-- A space is a shell that is given, but the sequence of its words is missing. -/
theorem shell_of_blanks :
    builtin.line "SHELL" (.string " ") = .ok "SHELL []" ∧
    builtin.line "SHELL" (.sequence ((Text.words " ").map .string)) =
      .error (.argumentMissing "SHELL" "command" Usage.shellSequence) := by
  constructor
  · exact Results.eq_ok_of_toOption (by decide)
  · exact Results.eq_error_of_error? (by decide)

end ImageRecipe
