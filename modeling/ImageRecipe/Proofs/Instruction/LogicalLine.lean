import ImageRecipe.Proofs.Instruction.Builtin
import ImageRecipe.Proofs.Instruction.Kind
import ImageRecipe.Proofs.Results
import ImageRecipe.Proofs.Value.Plain

/-!
# One line for each instruction

From a plain argument every built-in body makes one logical line: it breaks a line only where it
continues it, and never ends in a backslash.  So the lines of instructions, each ended by a
newline, neither fall apart nor flow together.

* `Body.WritesLine` : the body makes one line of an argument
* `builtinHandlers_writeLine` : so do all built-in bodies, given the inner lines
* `logicalLine_of_line` : every line of a plain argument, by induction on its depth
* `logicalLines_of_convertAll` : the lines of a whole list of instructions
-/

namespace ImageRecipe

open Converter Text

/-! ## What calls read from a plain argument -/

namespace Call

variable {call : Call}

theorem value_of_text {s : String} (h : call.text = .ok s) : call.value = .string s := by
  simp only [text] at h
  split at h
  · cases h; assumption
  · cases h

theorem value_of_sequence {items : List Value} (h : call.sequence = .ok items) :
    call.value = .sequence items := by
  simp only [sequence] at h
  split at h
  · cases h; assumption
  · cases h

theorem plain_of_scalar {argument s : String} {v : Value} (hv : v.Plain)
    (h : call.scalar argument v = .ok s) : PlainText s := by
  simp only [scalar] at h
  split at h
  · rename_i htext
    cases h
    exact Value.plain_of_scalarText? hv htext
  · cases h

theorem plain_of_scalars {argument : String} {items : List Value} {texts : List String}
    (hitems : ∀ v ∈ items, v.Plain) (h : call.scalars argument items = .ok texts) :
    ∀ s ∈ texts, PlainText s := by
  induction items generalizing texts with
  | nil => cases h; exact nofun
  | cons v rest ih =>
      rw [List.forall_mem_cons] at hitems
      simp only [scalars] at h
      cases hv : call.scalar argument v with
      | error e => rw [hv] at h; cases h
      | ok s =>
          rw [hv] at h
          obtain ⟨others, hrest, rfl⟩ := Results.of_map h
          exact List.forall_mem_cons.mpr ⟨plain_of_scalar hitems.1 hv, ih hitems.2 hrest⟩

theorem plain_of_scalarPairs {entries : List (String × Value)} {pairs : List (String × String)}
    (hentries : ∀ e ∈ entries, PlainText e.1 ∧ e.2.Plain)
    (h : call.scalarPairs entries = .ok pairs) : ∀ p ∈ pairs, PlainText p.1 ∧ PlainText p.2 := by
  induction entries generalizing pairs with
  | nil => cases h; exact nofun
  | cons e rest ih =>
      obtain ⟨key, v⟩ := e
      rw [List.forall_mem_cons] at hentries
      simp only [scalarPairs] at h
      cases hv : call.scalar key v with
      | error e => rw [hv] at h; cases h
      | ok s =>
          rw [hv] at h
          obtain ⟨others, hrest, rfl⟩ := Results.of_map h
          exact List.forall_mem_cons.mpr
            ⟨⟨hentries.1.1, plain_of_scalar hentries.1.2 hv⟩, ih hentries.2 hrest⟩

theorem plain_of_optionalScalar {argument : String} {given : Option Value} {made : Option String}
    (hgiven : ∀ v, given = some v → v.Plain) (h : call.optionalScalar argument given = .ok made) :
    ∀ s, made = some s → PlainText s := by
  cases given with
  | none => cases h; exact nofun
  | some v =>
      obtain ⟨s, hs, rfl⟩ := Results.of_map h
      rintro _ ⟨⟩
      exact plain_of_scalar (hgiven v rfl) hs

theorem value_of_onlyEntry {argument : String} {entry : String × Value}
    (h : call.onlyEntry argument = .ok entry) :
    ∃ m, call.value = .mapping m ∧ m.first? = some entry := by
  simp only [onlyEntry] at h
  cases hm : call.mapping with
  | error e => rw [hm] at h; cases h
  | ok m =>
      rw [hm] at h
      refine ⟨m, value_of_mapping hm, ?_⟩
      cases hfirst : m.first? with
      | none => simp only [hfirst] at h; cases h
      | some first =>
          simp only [hfirst] at h
          cases h
          rfl

theorem plain_of_onlyEntry {argument : String} {entry : String × Value} (hvalue : call.value.Plain)
    (h : call.onlyEntry argument = .ok entry) : PlainText entry.1 ∧ entry.2.Plain := by
  obtain ⟨m, hm, hfirst⟩ := value_of_onlyEntry h
  rw [hm] at hvalue
  exact Value.plainEntries_iff.mp hvalue _ (List.mem_of_head? hfirst)

end Call

/-! ## Bodies -/

/-- What the body makes of the call, if anything, is one line. -/
def Body.WritesLine (body : Body) (call : Call) : Prop :=
  ∀ text, builtin.carryOut (body call) = .ok text → LogicalLine text

namespace Body

variable {call : Call}

theorem writesLine_verbatim (h : call.value.Plain) : Body.verbatim.WritesLine call := by
  intro text htext
  have hvalue := Call.value_of_text htext
  rw [hvalue] at h
  exact PlainText.logicalLine h

theorem writesLine_decimal : Body.decimal.WritesLine call := by
  intro text htext
  obtain ⟨n, -, rfl⟩ := Results.of_map htext
  exact (Value.plainText_of_number (Decimal.all_integerChars n.toInt)).logicalLine

theorem writesLine_empty : Body.empty.WritesLine call := by
  intro text htext
  cases htext
  exact .empty

theorem writesLine_execSequence : Body.execSequence.WritesLine call := by
  intro text htext
  obtain ⟨items, -, rfl⟩ := Results.of_map htext
  exact (plainText_jsonArray items).logicalLine

theorem writesLine_execMapping : Body.execMapping.WritesLine call := by
  intro text htext
  obtain ⟨m, -, rfl⟩ := Results.of_map htext
  exact (plainText_jsonArray _).logicalLine

theorem writesLine_wordArray : Body.wordArray.WritesLine call := by
  intro text htext
  obtain ⟨s, -, rfl⟩ := Results.of_map htext
  exact (plainText_jsonArray _).logicalLine

theorem writesLine_quotedLines (h : call.value.Plain) : Body.quotedLines.WritesLine call := by
  intro text htext
  obtain ⟨items, hitems, htext⟩ := Results.of_bind htext
  obtain ⟨lines, hlines, htext⟩ := Results.of_bind htext
  cases htext
  rw [Call.value_of_sequence hitems] at h
  have hplain := Call.plain_of_scalars (Value.plainItems_iff.mp h) hlines
  exact .joinItems rfl fun s hs => (hplain s hs).logicalLine

theorem writesLine_spaceSeparated (h : call.value.Plain) :
    Body.spaceSeparated.WritesLine call := by
  intro text htext
  obtain ⟨items, hitems, htext⟩ := Results.of_bind htext
  obtain ⟨words, hwords, htext⟩ := Results.of_bind htext
  cases htext
  rw [Call.value_of_sequence hitems] at h
  have hplain := Call.plain_of_scalars (Value.plainItems_iff.mp h) hwords
  exact .joinWith .space fun s hs => (hplain s hs).logicalLine

theorem writesLine_keyValueLines (h : call.value.Plain) : Body.keyValueLines.WritesLine call := by
  intro text htext
  obtain ⟨m, hm, htext⟩ := Results.of_bind htext
  obtain ⟨pairs, hpairs, htext⟩ := Results.of_bind htext
  cases htext
  rw [Call.value_of_mapping hm] at h
  have hplain := Call.plain_of_scalarPairs (Value.plainEntries_iff.mp h) hpairs
  exact .joinPairs rfl .keyValueDelimiter fun p hp =>
    ⟨(hplain p hp).1.logicalLine, (hplain p hp).2.logicalLine⟩

theorem plain_of_textUnder {m : Mapping Value} (hm : (Value.mapping m).Plain) {key s : String}
    (h : textUnder m key = some s) : PlainText s := by
  obtain ⟨v, hv, hs⟩ := Option.bind_eq_some_iff.mp h
  have hplain := Value.plain_of_get? hm hv
  cases v with
  | string text => cases hs; exact hplain
  | _ => cases hs

theorem logicalLine_imageLine {m : Mapping Value} (hm : (Value.mapping m).Plain)
    {tag : Option String} (htag : ∀ s, tag = some s → LogicalLine s) :
    LogicalLine (imageLine m tag) := by
  have hcolon : PlainText ":" := by decide
  have hat : PlainText "@" := by decide
  have hflag : PlainText "--platform=" := by decide
  have hstage : PlainText "AS " := by decide
  have hunder : ∀ key s, textUnder m key = some s → LogicalLine s :=
    fun key s hs => (plain_of_textUnder hm hs).logicalLine
  refine .joinPresent .space fun s hs => ?_
  simp only [List.mem_cons, List.not_mem_nil, or_false] at hs
  rcases hs with hs | hs | hs
  · obtain ⟨platform, hplatform, rfl⟩ := Option.map_eq_some_iff.mp hs.symm
    exact hflag.logicalLine.append (hunder _ _ hplatform)
  · cases hs
    cases tag with
    | some tag => exact .joinPresent_pair hcolon.logicalLine (hunder _) htag
    | none => exact .joinPresent_pair hat.logicalLine (hunder _) (hunder _)
  · obtain ⟨stage, halias, rfl⟩ := Option.map_eq_some_iff.mp hs.symm
    exact hstage.logicalLine.append (hunder _ _ halias)

theorem writesLine_imageMapping (h : call.value.Plain) : Body.imageMapping.WritesLine call := by
  intro text htext
  rw [carryOut_imageMapping] at htext
  obtain ⟨m, hm, htext⟩ := Results.of_bind htext
  obtain ⟨tag, htag, rfl⟩ := Results.of_map htext
  rw [Call.value_of_mapping hm] at h
  have hgiven : ∀ v, Constraint.givenKey? m "tag" = some v → v.Plain :=
    fun v hv => Value.plain_of_get? h (Constraint.givenKey?_eq_some_iff.mp hv).1
  exact logicalLine_imageLine h fun s hs =>
    (Call.plain_of_optionalScalar hgiven htag s hs).logicalLine

theorem writesLine_argumentMapping (h : call.value.Plain) :
    Body.argumentMapping.WritesLine call := by
  intro text htext
  rw [carryOut_argumentMapping] at htext
  obtain ⟨entry, hentry, htext⟩ := Results.of_bind htext
  obtain ⟨default, hdefault, rfl⟩ := Results.of_map htext
  obtain ⟨hname, hvalue⟩ := Call.plain_of_onlyEntry h hentry
  refine .joinPresent_pair .keyValueDelimiter ?_ fun s hs => ?_
  · rintro s ⟨⟩
    exact hname.logicalLine
  · have hgiven : ∀ v, entry.2.given? = some v → v.Plain := by
      intro v hv
      cases hentry : entry.2 with
      | null => rw [hentry] at hv; cases hv
      | _ => rw [hentry] at hv hvalue; cases hv; exact hvalue
    exact (Call.plain_of_optionalScalar hgiven hdefault s hs).logicalLine

theorem logicalLine_flag {option : String × String} (hkey : PlainText option.1)
    (hvalue : PlainText option.2) : LogicalLine (flag option) := by
  have hdashes : PlainText "--" := by decide
  have hname : LogicalLine (if option.1.startsWith "--" then option.1 else "--" ++ option.1) := by
    split
    · exact hkey.logicalLine
    · exact hdashes.logicalLine.append hkey.logicalLine
  exact (hname.append .keyValueDelimiter).append hvalue.logicalLine

theorem logicalLine_of_flags {options : Option Value} {text : String}
    (hoptions : ∀ v, options = some v → v.Plain) (h : flags call options = .ok text) :
    LogicalLine text := by
  unfold flags at h
  split at h
  · rename_i m
    obtain ⟨pairs, hpairs, rfl⟩ := Results.of_map h
    have hplain := Call.plain_of_scalarPairs (Value.plainEntries_iff.mp (hoptions _ rfl)) hpairs
    refine .joinWith .space fun s hs => ?_
    obtain ⟨pair, hpair, rfl⟩ := List.mem_map.mp hs
    exact logicalLine_flag (hplain pair hpair).1 (hplain pair hpair).2
  · cases h
    exact .empty

end Body

/-! ## Kind by kind -/

/-- The handler writes one line for the argument, if it takes it. -/
def Handler.WritesLine (h : Handler) (v : Value) : Prop :=
  ∀ captures, h.validate v = .ok captures → h.body.WritesLine (h.callFor v captures)

section Handlers

variable {h : Handler} {v : Value} {argument : String} {body : Body}

/-- Most bodies need to know no more than that the argument is plain. -/
theorem writesLine_of_body (hb : h.body = body) (hv : v.Plain)
    (hbody : ∀ call : Call, call.value.Plain → body.WritesLine call) : h.WritesLine v := by
  intro captures _
  rw [hb]
  exact hbody (h.callFor v captures) hv

theorem writesLine_imageText
    (hc : h.constraints = [.required argument .string, .pattern argument .imageReference])
    (hb : h.body = .imageText) (hv : v.Plain) : h.WritesLine v := by
  intro captures hvalid text htext
  obtain ⟨s, groups, rfl, hmatch, rfl⟩ := match_of_validate hc hvalid
  -- a group may end in a backslash, but put together again they are the argument itself
  rw [hb, imageText_eq hmatch rfl] at htext
  cases htext
  exact PlainText.logicalLine hv

theorem plainText_of_nameForm {s : String} (h : Pattern.NameForm .identifier s.toList) :
    PlainText s := by
  refine ⟨fun hmem => ?_, fun hlast => ?_⟩
  · exact absurd (h.forall_isNext _ hmem) (by decide)
  · exact absurd (h.forall_isNext _ (List.mem_of_getLast? hlast)) (by decide)

theorem writesLine_argumentText
    (hc : h.constraints =
      [.required argument .string, .pattern argument (.assignment .identifier)])
    (hb : h.body = .argumentText) (hv : v.Plain) : h.WritesLine v := by
  intro captures hvalid text htext
  obtain ⟨s, groups, rfl, hmatch, rfl⟩ := match_of_validate hc hvalid
  have hcaptures : (h.callFor (.string s) (some groups)).captures = some groups := rfl
  obtain ⟨written, hwritten, hcases⟩ := argumentText_eq hmatch hcaptures
  rw [hb, hwritten] at htext
  cases htext
  rcases hcases with rfl | ⟨hname, -⟩
  · exact PlainText.logicalLine hv
  · -- nothing but the name is left, in which there are no backslashes
    exact (plainText_of_nameForm hname).logicalLine

/-- Here the inner arguments come in, which nest less deep. -/
theorem writesLine_trigger
    (inner : ∀ name w, w.depth < v.depth → w.Plain → ∀ line, builtin.line name w = .ok line →
      LogicalLine line) (hb : h.body = .trigger) (hv : v.Plain) : h.WritesLine v := by
  intro captures _ text htext
  rw [hb, carryOut_trigger] at htext
  obtain ⟨entry, hentry, hline⟩ := Results.of_bind htext
  obtain ⟨m, hm, hfirst⟩ := Call.value_of_onlyEntry hentry
  obtain rfl : v = .mapping m := hm
  split at hline
  · cases hline
  · exact inner entry.1 entry.2 (Value.depth_lt_of_first? hfirst)
      (Call.plain_of_onlyEntry hv hentry).2 text hline

theorem writesLine_healthcheck
    (inner : ∀ name w, w.depth < v.depth → w.Plain → ∀ line, builtin.line name w = .ok line →
      LogicalLine line) (hb : h.body = .healthcheck) (hv : v.Plain) : h.WritesLine v := by
  intro captures _ text htext
  rw [hb, carryOut_healthcheck] at htext
  obtain ⟨m, hm, htext⟩ := Results.of_bind htext
  obtain ⟨options, hflags, htext⟩ := Results.of_bind htext
  obtain rfl : v = .mapping m := Call.value_of_mapping hm
  split at htext
  · cases htext
  · rename_i command hcommand
    obtain ⟨line, hline, rfl⟩ := Results.of_map htext
    have hoptions : LogicalLine options :=
      Body.logicalLine_of_flags (fun _ hgiven => Value.plain_of_get? hv hgiven) hflags
    have hinner : LogicalLine line :=
      inner "CMD" command (Value.depth_lt_of_get? hcommand) (Value.plain_of_get? hv hcommand)
        line hline
    refine .joinPresent_pair .space ?_ ?_
    · rintro _ ⟨⟩
      exact hoptions
    · rintro _ ⟨⟩
      exact hinner

/-- All built-in handlers write one line for a plain argument, if the inner lines are such. -/
theorem builtinHandlers_writeLine
    (inner : ∀ name w, w.depth < v.depth → w.Plain → ∀ line, builtin.line name w = .ok line →
      LogicalLine line) (hv : v.Plain) : ∀ h ∈ builtinHandlers, h.WritesLine v := by
  intro h hmem
  cases builtinHandlers_kind h hmem with
  | verbatim _ _ hb => exact writesLine_of_body hb hv fun _ => Body.writesLine_verbatim
  | wordArray _ _ hb => exact writesLine_of_body hb hv fun _ _ => Body.writesLine_wordArray
  | imageText _ hc hb => exact writesLine_imageText hc hb hv
  | argumentText _ hc hb => exact writesLine_argumentText hc hb hv
  | requiredInteger _ _ hb | bounds _ _ hb =>
      exact writesLine_of_body hb hv fun _ _ => Body.writesLine_decimal
  | execSequence _ _ hb => exact writesLine_of_body hb hv fun _ _ => Body.writesLine_execSequence
  | quotedLines _ _ hb => exact writesLine_of_body hb hv fun _ => Body.writesLine_quotedLines
  | spaceSeparated _ _ hb => exact writesLine_of_body hb hv fun _ => Body.writesLine_spaceSeparated
  | execMapping _ _ hb => exact writesLine_of_body hb hv fun _ _ => Body.writesLine_execMapping
  | pairs _ _ hb => exact writesLine_of_body hb hv fun _ => Body.writesLine_keyValueLines
  | imageMapping _ _ hb => exact writesLine_of_body hb hv fun _ => Body.writesLine_imageMapping
  | argumentMapping _ _ hb =>
      exact writesLine_of_body hb hv fun _ => Body.writesLine_argumentMapping
  | trigger _ _ _ hb => exact writesLine_trigger inner hb hv
  | noHealthcheck _ _ hb => exact writesLine_of_body hb hv fun _ _ => Body.writesLine_empty
  | healthcheck _ _ _ hb => exact writesLine_healthcheck inner hb hv

end Handlers

/-! ## Conversions -/

theorem builtinHandlers_plainInstruction : ∀ h ∈ builtinHandlers, PlainText h.instruction := by
  decide +kernel

/-- The line of a plain argument is one logical line, however deep instructions nest. -/
theorem logicalLine_of_line {name line : String} {v : Value} (hv : v.Plain)
    (h : builtin.line name v = .ok line) : LogicalLine line := by
  -- the induction is on the depth of the argument, since two bodies write inner lines
  induction hd : v.depth using Nat.strongRecOn generalizing name v line with
  | ind depth ih =>
      have hinner : ∀ name w, w.depth < v.depth → w.Plain → ∀ line,
          builtin.line name w = .ok line → LogicalLine line :=
        fun name w deeper hw line hline => ih w.depth (hd ▸ deeper) hw hline rfl
      obtain ⟨g, hg, -, -, captures, text, hvalid, htext, rfl⟩ := builtin_line_eq_ok_iff.mp h
      have htext' := builtinHandlers_writeLine hinner hv g hg captures hvalid text htext
      exact ((builtinHandlers_plainInstruction g hg).logicalLine.append .space).append
        htext'

theorem plain_of_convert {object : Value} {line : String} (hobject : object.Plain)
    (h : builtin.convert object = .ok line) :
    ∃ name v, v.Plain ∧ builtin.line name v = .ok line := by
  simp only [Converter.convert] at h
  cases hparts : object.asInstruction with
  | error e => rw [hparts] at h; cases h
  | ok parts =>
      obtain ⟨name, v⟩ := parts
      rw [hparts] at h
      refine ⟨name, v, ?_, h⟩
      simp only [Value.asInstruction] at hparts
      split at hparts
      · rename_i m
        split at hparts
        · rename_i entry hentries
          cases hparts
          exact (Value.plainEntries_iff.mp hobject _ (by rw [hentries]; exact List.mem_cons_self)).2
        · cases hparts
      · cases hparts

/-- The lines are those of the objects, one for each and in their order. -/
theorem Converter.convertAll_eq_ok_iff {c : Converter} {objects : List Value}
    {lines : List String} :
    c.convertAll objects = .ok lines ↔ objects.map c.convert = lines.map .ok := by
  induction objects generalizing lines with
  | nil =>
      rw [convertAll, List.map_nil, Except.ok.injEq]
      constructor
      · rintro rfl
        rfl
      · intro h
        exact (List.map_eq_nil_iff.mp h.symm).symm
  | cons object rest ih =>
      rw [convertAll, List.map_cons]
      cases hobject : c.convert object with
      | error e =>
          cases lines with
          | nil => simp
          | cons line others => simp
      | ok line =>
          simp only
          constructor
          · intro h
            obtain ⟨others, hothers, rfl⟩ := Results.of_map h
            rw [List.map_cons, ih.mp hothers]
          · intro h
            cases lines with
            | nil => cases h
            | cons first others =>
                rw [List.map_cons, List.cons.injEq, Except.ok.injEq] at h
                rw [ih.mpr h.2, h.1]
                rfl

/-- Of plain objects that all have lines: the text of these, each ended by a newline, is cut at the
newlines that are not continued into just these lines again, one for each object. -/
theorem logicalLines_of_convertAll {objects : List Value} {lines : List String}
    (hplain : ∀ object ∈ objects, object.Plain) (h : builtin.convertAll objects = .ok lines) :
    logicalLines (String.join (lines.map (· ++ "\n"))) = (lines, "") ∧
      objects.map builtin.convert = lines.map .ok := by
  have heach := convertAll_eq_ok_iff.mp h
  refine ⟨logicalLines_join fun line hline => ?_, heach⟩
  have hmem : Except.ok line ∈ objects.map builtin.convert := by
    rw [heach]
    exact List.mem_map_of_mem hline
  obtain ⟨object, hobject, hconvert⟩ := List.mem_map.mp hmem
  obtain ⟨name, v, hv, hline⟩ := plain_of_convert (hplain object hobject) hconvert
  exact logicalLine_of_line hv hline

/-- Two of these are continued, the second one inside a trigger. -/
def continuedObjects : List Value :=
  [.mapping ⟨[("run", .sequence [.string "make", .string "make install"])]⟩,
   .mapping ⟨[("onbuild", .mapping ⟨[("label", .mapping ⟨[("a", .integer 1), ("b", .null)]⟩)]⟩)]⟩,
   .mapping ⟨[("arg", .string "path=")]⟩]

/-- Their lines, of five physical ones. -/
def continuedLines : List String :=
  ["RUN \"make\" \\\n    \"make install\"", "ONBUILD LABEL a=1 \\\n      b=", "ARG path"]

theorem logicalLines_continuedObjects :
    builtin.convertAll continuedObjects = .ok continuedLines ∧
      logicalLines (String.join (continuedLines.map (· ++ "\n"))) = (continuedLines, "") := by
  have hlines : builtin.convertAll continuedObjects = .ok continuedLines :=
    Results.eq_ok_of_toOption (by decide +kernel)
  have hplain : ∀ object ∈ continuedObjects, object.Plain := by
    simp only [continuedObjects, List.forall_mem_cons, List.not_mem_nil, false_implies,
      implies_true, Value.Plain, Value.PlainItems, Value.PlainEntries]
    decide
  exact ⟨hlines, (logicalLines_of_convertAll hplain hlines).1⟩

end ImageRecipe
