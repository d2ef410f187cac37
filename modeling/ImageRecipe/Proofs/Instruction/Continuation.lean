import ImageRecipe.Proofs.Instruction.Builtin
import ImageRecipe.Proofs.Text.PhysicalLine
import ImageRecipe.Proofs.Value.Plain

/-!
# Instructions over several lines

Three instructions write an entry a line: the commands of a sequence, and labels and variables that
are given as mappings.  If no entry has a newline of its own, nothing of the entries is lost.

* `Value.OneLine` : a value whose text has no newline
* `exists_line_commands`, `exists_line_pairs` : the lines, put together from the texts
* `laidOut_commands`, `laidOut_pairs` : the physical lines hold the entries, one each and in order
* `continuation_loses_nothing` : so that commands with the same line have the same texts
-/

namespace ImageRecipe

open Converter (builtin)
open Text (LaidOut physicalLines laidOut_physicalLines)

/-- There is no newline in a string; other scalars are written without one anyway. -/
def Value.OneLine : Value → Prop
  | .string s => '\n' ∉ s.toList
  | _ => True

theorem Value.oneLine_of_scalarText? {v : Value} {s : String} (hv : v.OneLine)
    (h : v.scalarText? = some s) : '\n' ∉ s.toList := by
  cases v with
  | string text => cases h; exact hv
  | null | bool _ | integer _ | float _ => exact (plain_of_scalarText? (by simp [Plain]) h).oneLine
  | sequence _ | mapping _ => cases h

/-! ## Lines -/

theorem exists_commands_handler : ∃ h ∈ builtinHandlers, h.name = "RUN" ∧ h.shape = .sequence ∧
    h.body = .quotedLines ∧ ∃ argument, h.constraints = [.required argument .sequence] :=
  ⟨_, List.mem_of_getElem? (i := 3) rfl, rfl, rfl, rfl, _, rfl⟩

theorem exists_pairs_handler : ∀ keyword ∈ ["LABEL", "ENV"], ∃ h ∈ builtinHandlers,
    h.name = keyword ∧ h.shape = .mapping ∧ h.body = .keyValueLines ∧
      ∃ argument, h.constraints = [.required argument .mapping] := by
  simp only [List.forall_mem_cons, List.not_mem_nil, false_implies, implies_true, and_true]
  constructor
  · exact ⟨_, List.mem_of_getElem? (i := 11) rfl, rfl, rfl, rfl, _, rfl⟩
  · exact ⟨_, List.mem_of_getElem? (i := 15) rfl, rfl, rfl, rfl, _, rfl⟩

namespace Body

variable {call : Call} {text : String}

/-- What stands between two entries depends on nothing but the name of the instruction. -/
theorem separator_hanging (quote : Bool)
    (hascii : call.instruction.utf8ByteSize = call.instruction.length) :
    (hanging call quote).separator =
      Layout.continuation ++ Layout.spaces (call.instruction.length + 1) := by
  rw [Layout.Spread.separator, hanging, hascii]

theorem exists_texts_of_quotedLines {items : List Value} (hcall : call.value = .sequence items)
    (h : builtin.carryOut (quotedLines call) = .ok text) :
    ∃ texts : List String, items.map Value.scalarText? = texts.map some ∧
      text = Layout.joinItems (hanging call true) texts := by
  obtain ⟨read, hread, h⟩ := Results.of_bind h
  obtain ⟨texts, htexts, h⟩ := Results.of_bind h
  cases h
  rw [Call.sequence, hcall] at hread
  cases hread
  exact ⟨texts, call.scalars_eq_ok_iff.mp htexts, rfl⟩

theorem exists_texts_of_keyValueLines {m : Mapping Value} (hcall : call.value = .mapping m)
    (h : builtin.carryOut (keyValueLines call) = .ok text) :
    ∃ pairs : List (String × String),
      m.entries.map (fun e => (e.1, e.2.scalarText?)) = pairs.map (fun p => (p.1, some p.2)) ∧
        text = Layout.joinPairs (hanging call false) Layout.keyValueDelimiter pairs := by
  obtain ⟨read, hread, h⟩ := Results.of_bind h
  obtain ⟨pairs, hpairs, h⟩ := Results.of_bind h
  cases h
  rw [Call.mapping, hcall] at hread
  cases hread
  exact ⟨pairs, call.scalarPairs_eq_ok_iff.mp hpairs, rfl⟩

end Body

section Lines

variable {name keyword line : String} (hname : Text.asciiUpper name = keyword)

include hname

/-- A handler that only asks for its argument to be there hands it to the body. -/
theorem carryOut_of_required {h : Handler} {v : Value} {shape : Shape} {argument : String}
    (hmem : h ∈ builtinHandlers) (hown : h.name = keyword) (hshape : h.shape = shape)
    (hv : v.shape? = some shape) (hc : h.constraints = [.required argument shape])
    (hline : builtin.line name v = .ok line) :
    v.truthy = true ∧ ∃ text,
      builtin.carryOut (h.body ⟨keyword, h.usage, v, none⟩) = .ok text ∧
        line = keyword ++ " " ++ text := by
  have hinstruction : h.instruction = keyword := (builtinHandlers_instruction h hmem).trans hown
  obtain ⟨captures, text, hvalid, htext, rfl⟩ :=
    Converter.of_builtin_line hmem (hown.trans hname.symm) (by rw [hshape, hv]) hline
  rw [Converter.validate_eq _ hc, Constraint.applyAll_cons_iff] at hvalid
  obtain ⟨between, hgiven, hmade⟩ := hvalid
  obtain ⟨htruthy, -, rfl⟩ := Constraint.apply_required.mp hgiven
  rw [Constraint.applyAll_nil_iff] at hmade
  subst hmade
  rw [Handler.callFor, hinstruction] at htext
  exact ⟨htruthy, text, htext, by rw [Handler.lineOf, hinstruction]⟩

/-- The line of an accepted sequence of commands, each between quotes. -/
theorem exists_line_commands {items : List Value} (hkeyword : keyword = "RUN")
    (hline : builtin.line name (.sequence items) = .ok line) :
    items ≠ [] ∧ ∃ texts : List String, items.map Value.scalarText? = texts.map some ∧
      line = keyword ++ " " ++ Layout.joinWith
        (Layout.continuation ++ Layout.spaces (keyword.length + 1))
          (texts.map Layout.wrapInQuotes) := by
  obtain ⟨h, hmem, hown, hshape, hb, argument, hc⟩ := exists_commands_handler
  obtain ⟨htruthy, text, htext, rfl⟩ :=
    carryOut_of_required hname hmem (hown.trans hkeyword.symm) hshape rfl hc hline
  rw [hb] at htext
  obtain ⟨texts, htexts, rfl⟩ := Body.exists_texts_of_quotedLines rfl htext
  refine ⟨by simpa [Value.truthy] using htruthy, texts, htexts, ?_⟩
  have hascii : keyword.utf8ByteSize = keyword.length := by
    rw [hkeyword]
    rfl
  rw [Layout.joinItems, Body.separator_hanging _ hascii]
  rfl

/-- The line of an accepted mapping of labels or variables. -/
theorem exists_line_pairs {m : Mapping Value} (hkeyword : keyword ∈ ["LABEL", "ENV"])
    (hline : builtin.line name (.mapping m) = .ok line) :
    m.entries ≠ [] ∧ ∃ pairs : List (String × String),
      m.entries.map (fun e => (e.1, e.2.scalarText?)) = pairs.map (fun p => (p.1, some p.2)) ∧
        line = keyword ++ " " ++ Layout.joinWith
          (Layout.continuation ++ Layout.spaces (keyword.length + 1))
            (pairs.map fun p => p.1 ++ "=" ++ p.2) := by
  obtain ⟨h, hmem, hown, hshape, hb, argument, hc⟩ := exists_pairs_handler keyword hkeyword
  obtain ⟨htruthy, text, htext, rfl⟩ :=
    carryOut_of_required hname hmem hown hshape rfl hc hline
  rw [hb] at htext
  obtain ⟨pairs, hpairs, rfl⟩ := Body.exists_texts_of_keyValueLines rfl htext
  refine ⟨by simpa [Value.truthy, Mapping.isEmpty] using htruthy, pairs, hpairs, ?_⟩
  have hascii : keyword.utf8ByteSize = keyword.length := by
    simp only [List.mem_cons, List.not_mem_nil, or_false] at hkeyword
    rcases hkeyword with rfl | rfl <;> rfl
  rw [Layout.joinPairs, Body.separator_hanging _ hascii]
  rfl

/-! ## Physical lines -/

/-- Each command stands between quotes on a physical line of its own. -/
theorem laidOut_commands {items : List Value} (hkeyword : keyword = "RUN")
    (hitems : ∀ v ∈ items, v.OneLine) (hline : builtin.line name (.sequence items) = .ok line) :
    ∃ texts : List String, items.map Value.scalarText? = texts.map some ∧
      LaidOut keyword (texts.map Layout.wrapInQuotes) (physicalLines line) := by
  obtain ⟨hne, texts, htexts, rfl⟩ := exists_line_commands hname hkeyword hline
  refine ⟨texts, htexts, laidOut_physicalLines (by rw [hkeyword]; decide) ?_ ?_⟩
  · intro hnone
    rw [List.map_eq_nil_iff.mp hnone] at htexts
    exact hne (List.map_eq_nil_iff.mp htexts)
  · intro entry hentry
    obtain ⟨text, htext, rfl⟩ := List.mem_map.mp hentry
    obtain ⟨v, hv, hs⟩ : ∃ v ∈ items, v.scalarText? = some text :=
      List.mem_map.mp (htexts ▸ List.mem_map_of_mem htext)
    simp [Layout.wrapInQuotes, Value.oneLine_of_scalarText? (hitems v hv) hs]

/-- Each pair stands on a physical line of its own. -/
theorem laidOut_pairs {m : Mapping Value} (hkeyword : keyword ∈ ["LABEL", "ENV"])
    (hentries : ∀ e ∈ m.entries, '\n' ∉ e.1.toList ∧ e.2.OneLine)
    (hline : builtin.line name (.mapping m) = .ok line) :
    ∃ pairs : List (String × String),
      m.entries.map (fun e => (e.1, e.2.scalarText?)) = pairs.map (fun p => (p.1, some p.2)) ∧
        LaidOut keyword (pairs.map fun p => p.1 ++ "=" ++ p.2) (physicalLines line) := by
  obtain ⟨hne, pairs, hpairs, rfl⟩ := exists_line_pairs hname hkeyword hline
  have honeWord : '\n' ∉ keyword.toList := by
    simp only [List.mem_cons, List.not_mem_nil, or_false] at hkeyword
    rcases hkeyword with rfl | rfl <;> decide
  refine ⟨pairs, hpairs, laidOut_physicalLines honeWord ?_ ?_⟩
  · intro hnone
    rw [List.map_eq_nil_iff.mp hnone] at hpairs
    exact hne (List.map_eq_nil_iff.mp hpairs)
  · intro entry hentry
    obtain ⟨⟨key, text⟩, hpair, rfl⟩ := List.mem_map.mp hentry
    obtain ⟨⟨key', v⟩, he, heq⟩ :
        ∃ e ∈ m.entries, (e.1, e.2.scalarText?) = (key, some text) :=
      List.mem_map.mp (hpairs ▸ List.mem_map_of_mem hpair)
    obtain ⟨rfl, htext⟩ := Prod.mk.inj heq
    obtain ⟨hkey, hv⟩ := hentries _ he
    simp [hkey, Value.oneLine_of_scalarText? hv htext]

end Lines

theorem Layout.wrapInQuotes_inj {s t : String} (h : wrapInQuotes s = wrapInQuotes t) : s = t := by
  simpa [wrapInQuotes] using h

/-- The commands of a sequence, and the labels or variables of a mapping, stand one each on the
physical lines, in their order and with nothing lost of them, if there are no newlines in them.  So
two sequences of commands with the same line have the same texts. -/
theorem continuation_loses_nothing :
    (∀ {name line : String} {items : List Value}, Text.asciiUpper name = "RUN" →
      (∀ v ∈ items, v.OneLine) → builtin.line name (.sequence items) = .ok line →
        ∃ texts : List String, items.map Value.scalarText? = texts.map some ∧
          LaidOut "RUN" (texts.map Layout.wrapInQuotes) (physicalLines line)) ∧
    (∀ {name keyword line : String} {m : Mapping Value}, keyword ∈ ["LABEL", "ENV"] →
      Text.asciiUpper name = keyword →
        (∀ e ∈ m.entries, '\n' ∉ e.1.toList ∧ e.2.OneLine) →
          builtin.line name (.mapping m) = .ok line →
            ∃ pairs : List (String × String),
              m.entries.map (fun e => (e.1, e.2.scalarText?)) =
                  pairs.map (fun p => (p.1, some p.2)) ∧
                LaidOut keyword (pairs.map fun p => p.1 ++ "=" ++ p.2) (physicalLines line)) ∧
    ∀ {name other line : String} {items others : List Value},
      Text.asciiUpper name = "RUN" → Text.asciiUpper other = "RUN" →
        (∀ v ∈ items, v.OneLine) → (∀ v ∈ others, v.OneLine) →
          builtin.line name (.sequence items) = .ok line →
            builtin.line other (.sequence others) = .ok line →
              items.map Value.scalarText? = others.map Value.scalarText? := by
  refine ⟨?_, ?_, ?_⟩
  · intro name line items hname hitems hline
    exact laidOut_commands hname rfl hitems hline
  · intro name keyword line m hkeyword hname hentries hline
    exact laidOut_pairs hname hkeyword hentries hline
  · intro name other line items others hname hother hitems hothers hline hsame
    obtain ⟨texts, htexts, hlaid⟩ := laidOut_commands hname rfl hitems hline
    obtain ⟨texts', htexts', hlaid'⟩ := laidOut_commands hother rfl hothers hsame
    -- what is stripped of the lines is determined by them, and quotes can be taken off again
    have hquoted : texts.map Layout.wrapInQuotes = texts'.map Layout.wrapInQuotes :=
      hlaid.entries.symm.trans hlaid'.entries
    have htext : texts = texts' :=
      (List.map_inj_right fun _ _ => Layout.wrapInQuotes_inj).mp hquoted
    rw [htexts, htexts', htext]

/-- Commands with quotes, blanks and backslashes at their ends, labels that look like continued
lines, and a number in place of its text. -/
theorem continuation_loses_nothing_backslashes :
    (∃ texts : List String,
      [Value.string "  echo \"a\" \\", .string " \\", .integer 3].map Value.scalarText? =
          texts.map some ∧
        LaidOut "RUN" (texts.map Layout.wrapInQuotes)
          (physicalLines "RUN \"  echo \"a\" \\\" \\\n    \" \\\" \\\n    \"3\"")) ∧
    (∃ pairs : List (String × String),
      [(" k", Value.string "v \\"), ("l=", .bool true)].map (fun e => (e.1, e.2.scalarText?)) =
          pairs.map (fun p => (p.1, some p.2)) ∧
        LaidOut "LABEL" (pairs.map fun p => p.1 ++ "=" ++ p.2)
          (physicalLines "LABEL  k=v \\ \\\n      l==true")) ∧
    [Value.integer 3].map Value.scalarText? = [Value.string "3"].map Value.scalarText? := by
  obtain ⟨hcommands, hpairs, hsame⟩ := continuation_loses_nothing
  have hrun : Text.asciiUpper "run" = "RUN" := by decide
  have hlabel : Text.asciiUpper "Label" = "LABEL" := by decide
  refine ⟨?_, ?_, ?_⟩
  · refine hcommands hrun ?_ ?_
    · simp [Value.OneLine]
    · exact Results.eq_ok_of_toOption (by decide +kernel)
  · refine hpairs (m := ⟨[(" k", .string "v \\"), ("l=", .bool true)]⟩) (by decide) hlabel ?_ ?_
    · simp [Value.OneLine]
    · exact Results.eq_ok_of_toOption (by decide +kernel)
  · have hnumber : builtin.line "run" (.sequence [.integer 3]) = .ok "RUN \"3\"" :=
      Results.eq_ok_of_toOption (by decide +kernel)
    have htext : builtin.line "run" (.sequence [.string "3"]) = .ok "RUN \"3\"" :=
      Results.eq_ok_of_toOption (by decide +kernel)
    exact hsame hrun hrun (by simp [Value.OneLine]) (by simp [Value.OneLine]) hnumber htext

end ImageRecipe
