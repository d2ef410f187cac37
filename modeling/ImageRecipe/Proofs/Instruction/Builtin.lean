import ImageRecipe.Proofs.Instruction.Constraint
import ImageRecipe.Proofs.Instruction.Pattern
import ImageRecipe.Proofs.Instruction.Table
import ImageRecipe.Proofs.Results

/-!
# What the built-in handlers take

A handler takes an argument of its shape if its constraints let it through and its body makes a
text of it.  For each kind of built-in handler this is a condition on the argument alone, except
for the two that ask for the line of an inner instruction.

* `Converter.Takes` : constraints and body succeed
* `builtin_lookup_iff`, `builtin_line_of_mem`, `of_builtin_line`, `builtin_line_eq_ok_iff` :
  dispatch to the built-in handlers
* `Call.scalars_eq_ok_iff`, `Call.scalarPairs_eq_ok_iff` : the texts of scalars, item by item
* `carryOut_imageMapping`, `carryOut_trigger`, … : what the longer bodies make, in one equation
* `takes_stringHandler`, … : the conditions, kind by kind
* `imageText_eq`, `argumentText_eq` : texts that are put together again from their groups
-/

namespace ImageRecipe

/-! ## Dispatch -/

namespace Converter

/-- The constraints let the value through and the body makes a text of it. -/
def Takes (c : Converter) (h : Handler) (v : Value) : Prop :=
  ∃ captures text, h.validate v = .ok captures ∧
    c.carryOut (h.body (h.callFor v captures)) = .ok text

theorem builtin_lookup_iff {name : String} {shape : Shape} {h : Handler} :
    builtin.table.lookup name shape = .ok h ↔
      h ∈ builtinHandlers ∧ h.name = Text.asciiUpper name ∧ h.shape = shape := by
  have hfind : builtin.table.find? (.of name shape) = some h ↔
      h ∈ builtinHandlers ∧ h.key = .of name shape :=
    HandlerTable.find?_sort_eq_some_iff builtinHandlers_distinct
  have hlookup : builtin.table.lookup name shape = .ok h ↔
      builtin.table.find? (.of name shape) = some h := by
    simp only [HandlerTable.lookup]
    cases builtin.table.find? (.of name shape) <;> simp
  rw [hlookup, hfind]
  constructor
  · rintro ⟨hmem, hkey⟩
    rw [← builtinHandlers_instruction h hmem]
    exact ⟨hmem, congrArg HandlerKey.instruction hkey, congrArg HandlerKey.shape hkey⟩
  · rintro ⟨hmem, hname, hshape⟩
    rw [← builtinHandlers_instruction h hmem] at hname
    exact ⟨hmem, by rw [Handler.key, HandlerKey.of, hname, hshape]⟩

/-- The handler for name and shape alone decides on a line. -/
theorem builtin_line_of_mem {name : String} {v : Value} {h : Handler} (hmem : h ∈ builtinHandlers)
    (hname : h.name = Text.asciiUpper name) (hshape : v.shape? = some h.shape) :
    builtin.line name v =
      match h.validate v with
      | .error e => .error e
      | .ok captures => (builtin.carryOut (h.body (h.callFor v captures))).map h.lineOf := by
  have hlookup : builtin.table.lookup name h.shape = .ok h :=
    builtin_lookup_iff.mpr ⟨hmem, hname, rfl⟩
  rw [line_eq]
  cases hvalid : h.validate v with
  | error e => simp only [Value.dispatchShape, hshape, hlookup, hvalid]
  | ok captures => simp only [Value.dispatchShape, hshape, hlookup, hvalid]

/-- The line of an accepted value is what the body makes of it, once the constraints let it
through. -/
theorem of_builtin_line {name line : String} {v : Value} {h : Handler} (hmem : h ∈ builtinHandlers)
    (hname : h.name = Text.asciiUpper name) (hshape : v.shape? = some h.shape)
    (hline : builtin.line name v = .ok line) :
    ∃ captures text, h.validate v = .ok captures ∧
      builtin.carryOut (h.body (h.callFor v captures)) = .ok text ∧ line = h.lineOf text := by
  rw [builtin_line_of_mem hmem hname hshape] at hline
  cases hvalid : h.validate v with
  | error e =>
      rw [hvalid] at hline
      cases hline
  | ok captures =>
      rw [hvalid] at hline
      obtain ⟨text, htext, rfl⟩ := Results.of_map hline
      exact ⟨captures, text, rfl, htext, rfl⟩

/-- A line is made by the handler for name and shape. -/
theorem builtin_line_eq_ok_iff {name line : String} {v : Value} :
    builtin.line name v = .ok line ↔
      ∃ h ∈ builtinHandlers, h.name = Text.asciiUpper name ∧ v.shape? = some h.shape ∧
        ∃ captures text, h.validate v = .ok captures ∧
          builtin.carryOut (h.body (h.callFor v captures)) = .ok text ∧ line = h.lineOf text := by
  constructor
  · intro hline
    rw [line_eq] at hline
    cases hshape : v.shape? with
    | none => simp only [Value.dispatchShape, hshape] at hline; cases hline
    | some shape =>
        simp only [Value.dispatchShape, hshape] at hline
        cases hlookup : builtin.table.lookup name shape with
        | error e => simp only [hlookup] at hline; cases hline
        | ok h =>
            simp only [hlookup] at hline
            obtain ⟨hmem, hname, hs⟩ := builtin_lookup_iff.mp hlookup
            cases hvalid : h.validate v with
            | error e => simp only [hvalid] at hline; cases hline
            | ok captures =>
                simp only [hvalid] at hline
                obtain ⟨text, htext, rfl⟩ := Results.of_map hline
                exact ⟨h, hmem, hname, congrArg some hs.symm, captures, text, hvalid, htext, rfl⟩
  · rintro ⟨h, hmem, hname, hshape, captures, text, hvalid, htext, rfl⟩
    rw [builtin_line_of_mem hmem hname hshape, hvalid]
    simp only [htext, Except.map]

/-- A conversion succeeds if there is a handler for name and shape, and it takes the value. -/
theorem builtin_line_isOk_iff {name : String} {v : Value} :
    (∃ line, builtin.line name v = .ok line) ↔
      ∃ h ∈ builtinHandlers, h.name = Text.asciiUpper name ∧ v.shape? = some h.shape ∧
        builtin.Takes h v := by
  constructor
  · rintro ⟨line, hline⟩
    obtain ⟨h, hmem, hname, hshape, captures, text, hvalid, htext, -⟩ :=
      builtin_line_eq_ok_iff.mp hline
    exact ⟨h, hmem, hname, hshape, captures, text, hvalid, htext⟩
  · rintro ⟨h, hmem, hname, hshape, captures, text, hvalid, htext⟩
    exact ⟨h.lineOf text, builtin_line_eq_ok_iff.mpr
      ⟨h, hmem, hname, hshape, captures, text, hvalid, htext, rfl⟩⟩

end Converter

/-! ## Scalars inside an argument -/

/-- Items can be written into a line if none of them is a collection. -/
theorem Call.scalars_isOk_iff (call : Call) (argument : String) (items : List Value) :
    (∃ texts, call.scalars argument items = .ok texts) ↔
      ∀ v ∈ items, v.isCollection = false := by
  induction items with
  | nil => simp [scalars]
  | cons v rest ih =>
      have hv := v.scalarText?_isSome
      simp only [scalars, scalar, List.forall_mem_cons, ← ih]
      cases htext : v.scalarText? with
      | none =>
          rw [htext] at hv
          simp_all
      | some s =>
          rw [htext] at hv
          cases hrest : call.scalars argument rest with
          | error e => simp [Except.map]
          | ok texts => simp_all [Except.map]

/-- So it is with the values of entries. -/
theorem Call.scalarPairs_isOk_iff (call : Call) (entries : List (String × Value)) :
    (∃ pairs, call.scalarPairs entries = .ok pairs) ↔
      ∀ e ∈ entries, e.2.isCollection = false := by
  induction entries with
  | nil => simp [scalarPairs]
  | cons e rest ih =>
      obtain ⟨key, v⟩ := e
      have hv := v.scalarText?_isSome
      simp only [scalarPairs, scalar, List.forall_mem_cons, ← ih]
      cases htext : v.scalarText? with
      | none =>
          rw [htext] at hv
          simp_all
      | some s =>
          rw [htext] at hv
          cases hrest : call.scalarPairs rest with
          | error e => simp [Except.map]
          | ok pairs => simp_all [Except.map]

namespace Call

variable (call : Call) {entries : List (String × Value)}

/-- The texts are those of the items. -/
theorem scalars_eq_ok_iff {argument : String} {items : List Value} {texts : List String} :
    call.scalars argument items = .ok texts ↔ items.map Value.scalarText? = texts.map some := by
  induction items generalizing texts with
  | nil => cases texts <;> simp [scalars]
  | cons v rest ih =>
      simp only [scalars, scalar, List.map_cons]
      cases texts with
      | nil =>
          cases v.scalarText? with
          | none => simp
          | some s => cases call.scalars argument rest <;> simp [Except.map]
      | cons text texts =>
          rw [List.map_cons, List.cons_eq_cons, ← ih]
          cases v.scalarText? with
          | none => simp
          | some s => cases call.scalars argument rest <;> simp [Except.map]

/-- Pairs have the keys of the entries and the texts of their values. -/
theorem scalarPairs_eq_ok_iff {pairs : List (String × String)} :
    call.scalarPairs entries = .ok pairs ↔
      entries.map (fun e => (e.1, e.2.scalarText?)) = pairs.map fun p => (p.1, some p.2) := by
  induction entries generalizing pairs with
  | nil => cases pairs <;> simp [scalarPairs]
  | cons e rest ih =>
      obtain ⟨key, v⟩ := e
      simp only [scalarPairs, scalar, List.map_cons]
      cases pairs with
      | nil =>
          cases v.scalarText? with
          | none => simp
          | some s => cases call.scalarPairs rest <;> simp [Except.map]
      | cons pair pairs =>
          rw [List.map_cons, List.cons_eq_cons, ← ih]
          cases v.scalarText? with
          | none => simp
          | some s => cases call.scalarPairs rest <;> simp [Except.map, Prod.ext_iff]

/-- The first value that is a collection is the one that cannot be written. -/
theorem error?_scalarPairs :
    Results.error? (call.scalarPairs entries) =
      (entries.find? fun e => e.2.isCollection).map fun e => call.mismatch e.1 "scalar" e.2 := by
  induction entries with
  | nil => rfl
  | cons e rest ih =>
      obtain ⟨key, v⟩ := e
      have hv := v.scalarText?_isSome
      simp only [scalarPairs, scalar, List.find?_cons]
      cases htext : v.scalarText? with
      | none =>
          rw [htext] at hv
          have hcollection : v.isCollection = true := by simpa using hv
          rw [hcollection]
          rfl
      | some text =>
          rw [htext] at hv
          have hcollection : v.isCollection = false := by simpa using hv
          rw [hcollection, ← ih]
          exact Results.error?_map _ _

end Call

/-! ## Parts -/

namespace Layout

variable (delimiter : String) {s t : String}

theorem joinPresent_single (s : String) : joinPresent delimiter [some s, none] = s := by
  by_cases hs : s = ""
  · simp [joinPresent, Parts.join, presentParts, joinWith, hs]
  · simp [joinPresent, Parts.join, presentParts, joinWith, hs]

/-- An empty part counts as none. -/
theorem joinPresent_empty (s : String) : joinPresent delimiter [some s, some ""] = s := by
  by_cases hs : s = ""
  · simp [joinPresent, Parts.join, presentParts, joinWith, hs]
  · simp [joinPresent, Parts.join, presentParts, joinWith, hs]

theorem joinPresent_pair (hs : s ≠ "") (ht : t ≠ "") :
    joinPresent delimiter [some s, some t] = s ++ delimiter ++ t := by
  simp [joinPresent, Parts.join, presentParts, joinWith, hs, ht]

end Layout

/-! ## Kinds of handlers -/

/-- A value unless it is null. -/
def Value.given? : Value → Option Value
  | .null => none
  | v => some v

/-- A scalar as it is written, if there is one. -/
def Call.optionalScalar (call : Call) (argument : String) :
    Option Value → Except InstructionError (Option String)
  | none => .ok none
  | some v => (call.scalar argument v).map some

/-- The text of an image whose tag is written already. -/
def Body.imageLine (m : Mapping Value) (tag : Option String) : String :=
  let image := textUnder m "image"
  let reference := match tag with
    | some tag => Layout.joinPresent ":" [image, some tag]
    | none => Layout.joinPresent "@" [image, textUnder m "digest"]
  Layout.joinPresent " "
    [(textUnder m "platform").map ("--platform=" ++ ·), some reference,
      (textUnder m "alias").map ("AS " ++ ·)]

/-- The five keys of an image are as they should be. -/
structure Mapping.NamesImage (m : Mapping Value) : Prop where
  image : m.Requires "image" [.string]
  tag : m.Allows "tag" [.string, .integer]
  tagAlone : m.Excludes "tag" "digest"
  digest : m.Allows "digest" [.string]
  digestAlone : m.Excludes "digest" "tag"
  stage : m.Allows "alias" [.string]
  platform : m.Allows "platform" [.string]

namespace Converter

variable {c : Converter} {name usage argument : String}

/-- Without a pattern, constraints and body can be looked at one after the other. -/
theorem takes_iff {h : Handler} {v : Value} {lets makes : Prop}
    (hvalid : ∀ made, h.validate v = .ok made ↔ lets ∧ made = none)
    (hbody : lets → ((∃ text, c.carryOut (h.body (h.callFor v none)) = .ok text) ↔ makes)) :
    c.Takes h v ↔ lets ∧ makes := by
  constructor
  · rintro ⟨made, text, hmade, htext⟩
    obtain ⟨hlets, rfl⟩ := (hvalid made).mp hmade
    exact ⟨hlets, (hbody hlets).mp ⟨text, htext⟩⟩
  · rintro ⟨hlets, hmakes⟩
    obtain ⟨text, htext⟩ := (hbody hlets).mpr hmakes
    exact ⟨none, text, (hvalid none).mpr ⟨hlets, rfl⟩, htext⟩

/-- The constraints alone decide if the body makes a text of all that they let through. -/
theorem takes_iff_of_makes {h : Handler} {v : Value} {lets : Prop}
    (hvalid : ∀ made, h.validate v = .ok made ↔ lets ∧ made = none)
    (hbody : lets → ∃ text, c.carryOut (h.body (h.callFor v none)) = .ok text) :
    c.Takes h v ↔ lets := by
  rw [takes_iff hvalid fun hlets => iff_true_intro (hbody hlets), and_true]

/-- A body that asks for no inner line makes the text that its function makes. -/
theorem carryOut_pure (f : Call → Except InstructionError String) (call : Call) :
    c.carryOut (Body.pure f call) = f call := rfl

/-- Of an image, the tag is the only part that may fail to be written. -/
theorem carryOut_imageMapping (call : Call) :
    c.carryOut (Body.imageMapping call) =
      call.mapping.bind fun m =>
        (call.optionalScalar "tag" (Constraint.givenKey? m "tag")).map (Body.imageLine m) := by
  simp only [Body.imageMapping, carryOut_pure, bind]
  cases call.mapping with
  | error e => rfl
  | ok m =>
      simp only [Except.bind]
      cases Constraint.givenKey? m "tag" with
      | none => rfl
      | some tag =>
          simp only [Call.optionalScalar]
          cases call.scalar "tag" tag with
          | error e => rfl
          | ok s => rfl

theorem carryOut_argumentMapping (call : Call) :
    c.carryOut (Body.argumentMapping call) =
      (call.onlyEntry "name").bind fun entry =>
        (call.optionalScalar entry.1 entry.2.given?).map fun default =>
          Layout.joinPresent Layout.keyValueDelimiter [some entry.1, default] := by
  simp only [Body.argumentMapping, carryOut_pure, bind]
  cases call.onlyEntry "name" with
  | error e => rfl
  | ok entry =>
      obtain ⟨name, value⟩ := entry
      simp only [Except.bind]
      cases value with
      | null => rfl
      | _ =>
          simp only [Call.optionalScalar, Value.given?]
          cases call.scalar name _ with
          | error e => rfl
          | ok s => rfl

/-- A trigger has the line of the instruction inside, or its failure. -/
theorem carryOut_trigger (call : Call) :
    c.carryOut (Body.trigger call) =
      (call.onlyEntry "instruction").bind fun entry =>
        if Text.asciiUpper entry.1 ∈ Body.notNestable then
          .error (.notNestable call.instruction (Text.asciiUpper entry.1))
        else c.line entry.1 entry.2 := by
  simp only [Body.trigger]
  cases call.onlyEntry "instruction" with
  | error e => rfl
  | ok entry =>
      obtain ⟨name, inner⟩ := entry
      simp only [Except.bind]
      split
      · rfl
      · rw [carryOut_onLine]
        cases c.line name inner with
        | error e => rfl
        | ok line => rfl

/-- A health check has its options and the line of its command, or the failure of that. -/
theorem carryOut_healthcheck (call : Call) :
    c.carryOut (Body.healthcheck call) =
      call.mapping.bind fun m =>
        (Body.flags call (m.get? "options")).bind fun options =>
          match m.get? "cmd" with
          | none => .error (.argumentMissing call.instruction "cmd" call.usage)
          | some command => (c.line "CMD" command).map fun line =>
              Layout.joinPresent " " [some options, some line] := by
  simp only [Body.healthcheck]
  cases call.mapping with
  | error e => rfl
  | ok m =>
      simp only [Except.bind]
      cases Body.flags call (m.get? "options") with
      | error e => rfl
      | ok options =>
          simp only
          cases m.get? "cmd" with
          | none => rfl
          | some command =>
              simp only [carryOut_onLine]
              cases c.line "CMD" command with
              | error e => rfl
              | ok line => rfl

/-- A string that is asked for has to be given. -/
theorem takes_stringHandler {body : Body} {s : String}
    (hbody : ∀ call : Call, call.value = .string s → ∃ text, c.carryOut (body call) = .ok text) :
    c.Takes (stringHandler name usage argument body) (.string s) ↔ s ≠ "" := by
  have hvalid : ∀ made, (stringHandler name usage argument body).validate (.string s) = .ok made ↔
      s ≠ "" ∧ made = none := by
    intro made
    simp [Handler.validate, stringHandler, Constraint.applyAll_cons_iff,
      Constraint.applyAll_nil_iff, Constraint.apply_required, Value.truthy, Value.shape?]
  exact takes_iff_of_makes hvalid fun _ => hbody _ rfl

theorem makes_verbatim {call : Call} {s : String} (h : call.value = .string s) :
    ∃ text, c.carryOut (Body.verbatim call) = .ok text :=
  ⟨s, by simp [Body.verbatim, carryOut_pure, Call.text, h]⟩

theorem makes_wordArray {call : Call} {s : String} (h : call.value = .string s) :
    ∃ text, c.carryOut (Body.wordArray call) = .ok text :=
  ⟨_, by simp [Body.wordArray, carryOut_pure, Call.text, h, Except.map]; rfl⟩

/-- A sequence that is asked for has to have items, and the body may ask more of them. -/
theorem takes_sequenceHandler {body : Body} {items : List Value} {makes : Prop}
    (hbody : ∀ call : Call, call.value = .sequence items →
      ((∃ text, c.carryOut (body call) = .ok text) ↔ makes)) :
    c.Takes (sequenceHandler name usage argument body) (.sequence items) ↔ items ≠ [] ∧ makes := by
  refine takes_iff (fun made => ?_) fun _ => hbody _ rfl
  simp [Handler.validate, sequenceHandler, Constraint.applyAll_cons_iff,
    Constraint.applyAll_nil_iff, Constraint.apply_required, Value.truthy, Value.shape?]

theorem makes_execSequence {call : Call} {items : List Value} (h : call.value = .sequence items) :
    (∃ text, c.carryOut (Body.execSequence call) = .ok text) ↔ True :=
  iff_true_intro ⟨_, by simp [Body.execSequence, carryOut_pure, Call.sequence, h, Except.map]; rfl⟩

theorem makes_quotedLines {call : Call} {items : List Value} (h : call.value = .sequence items) :
    (∃ text, c.carryOut (Body.quotedLines call) = .ok text) ↔
      ∀ v ∈ items, v.isCollection = false := by
  rw [← call.scalars_isOk_iff "command"]
  simp only [Body.quotedLines, carryOut_pure, Call.sequence, h, bind, Except.bind]
  cases call.scalars "command" items <;> simp

theorem makes_spaceSeparated {call : Call} {items : List Value}
    (h : call.value = .sequence items) :
    (∃ text, c.carryOut (Body.spaceSeparated call) = .ok text) ↔
      ∀ v ∈ items, v.isCollection = false := by
  rw [← call.scalars_isOk_iff "ports"]
  simp only [Body.spaceSeparated, carryOut_pure, Call.sequence, h, bind, Except.bind]
  cases call.scalars "ports" items <;> simp

/-! ## Handlers of their own kind -/

variable {h : Handler} {m : Mapping Value}

/-- Validation puts the value to the handler's constraints, no captures made yet. -/
theorem validate_eq (constraints : List Constraint) (hc : h.constraints = constraints) (v : Value) :
    h.validate v = Constraint.applyAll h.instruction h.usage v none constraints := by
  rw [Handler.validate, hc]

theorem takes_pairs (hc : h.constraints = [.required argument .mapping])
    (hb : h.body = .keyValueLines) :
    c.Takes h (.mapping m) ↔ m.entries ≠ [] ∧ ∀ e ∈ m.entries, e.2.isCollection = false := by
  refine takes_iff (fun made => ?_) fun _ => ?_
  · simp [validate_eq _ hc, Constraint.applyAll_cons_iff, Constraint.applyAll_nil_iff,
      Constraint.apply_required, Value.truthy, Value.shape?, Mapping.isEmpty]
  · rw [hb, ← (h.callFor (.mapping m) none).scalarPairs_isOk_iff]
    simp only [Body.keyValueLines, carryOut_pure, Call.mapping, Handler.callFor, bind, Except.bind]
    cases Call.scalarPairs _ m.entries <;> simp

theorem takes_execMapping
    (hc : h.constraints =
      [.requiredKey "executable" [.string], .optionalKey "params" [.sequence] none])
    (hb : h.body = .execMapping) :
    c.Takes h (.mapping m) ↔ m.Requires "executable" [.string] ∧ m.Allows "params" [.sequence] := by
  have hvalid : ∀ made, h.validate (.mapping m) = .ok made ↔
      (m.Requires "executable" [.string] ∧ m.Allows "params" [.sequence]) ∧ made = none := by
    intro made
    simp [validate_eq _ hc, Constraint.applyAll_cons_iff, Constraint.applyAll_nil_iff,
      Constraint.apply_requiredKey, Constraint.apply_optionalKey, and_assoc]
  refine takes_iff_of_makes hvalid fun _ => ?_
  rw [hb]
  exact ⟨_, by
    simp [Body.execMapping, carryOut_pure, Call.mapping, Handler.callFor, Except.map]; rfl⟩

/-- An integer that is asked for has to be other than zero. -/
theorem takes_requiredInteger {n : Int64} (hc : h.constraints = [.required argument .integer])
    (hb : h.body = .decimal) : c.Takes h (.integer n) ↔ n ≠ 0 := by
  have hvalid : ∀ made, h.validate (.integer n) = .ok made ↔ n ≠ 0 ∧ made = none := by
    intro made
    simp [validate_eq _ hc, Constraint.applyAll_cons_iff, Constraint.applyAll_nil_iff,
      Constraint.apply_required, Value.truthy, Value.shape?]
  refine takes_iff_of_makes hvalid fun _ => ?_
  rw [hb]
  exact ⟨_, by
    simp [Body.decimal, carryOut_pure, Call.integer, Handler.callFor, Except.map]; rfl⟩

theorem takes_bounds {n lower upper : Int64} (hc : h.constraints = [.bounds argument lower upper])
    (hb : h.body = .decimal) : c.Takes h (.integer n) ↔ lower ≤ n ∧ n ≤ upper := by
  have hvalid : ∀ made, h.validate (.integer n) = .ok made ↔
      (lower ≤ n ∧ n ≤ upper) ∧ made = none := by
    intro made
    simp [validate_eq _ hc, Constraint.applyAll_cons_iff, Constraint.applyAll_nil_iff,
      Constraint.apply_bounds]
  refine takes_iff_of_makes hvalid fun _ => ?_
  rw [hb]
  exact ⟨_, by
    simp [Body.decimal, carryOut_pure, Call.integer, Handler.callFor, Except.map]; rfl⟩

/-- A string with a pattern behind it is missing if it is empty, and else has to match. -/
theorem validate_pattern {s : String} {form : Pattern}
    (hc : h.constraints = [.required argument .string, .pattern argument form]) :
    h.validate (.string s) =
      if s = "" then .error (.argumentMissing h.instruction argument h.usage)
      else match form.match? s with
        | none => .error (.patternMismatch h.instruction argument s form.source)
        | some captures => .ok (some captures) := by
  rw [validate_eq _ hc]
  by_cases hs : s = ""
  · simp [Constraint.applyAll, Constraint.apply, Value.truthy, hs]
  · simp only [Constraint.applyAll, Constraint.apply, Value.truthy, Value.shape?, hs]
    cases form.match? s <;> simp [hs]

/-- What a pattern behind the constraint on the shape has matched. -/
theorem match_of_validate {v : Value} {form : Pattern}
    (hc : h.constraints = [.required argument .string, .pattern argument form])
    {captures : Option Captures} (hvalid : h.validate v = .ok captures) :
    ∃ s groups, v = .string s ∧ form.match? s = some groups ∧ captures = some groups := by
  rw [validate_eq _ hc, Constraint.applyAll_cons_iff] at hvalid
  obtain ⟨between, hrequired, hrest⟩ := hvalid
  obtain ⟨s, rfl⟩ := Value.shape?_eq_string (Constraint.apply_required.mp hrequired).2.1
  obtain ⟨last, hpattern, hnil⟩ := Constraint.applyAll_cons_iff.mp hrest
  obtain ⟨groups, hmatch, rfl⟩ := Constraint.apply_pattern.mp hpattern
  exact ⟨s, groups, rfl, hmatch, Constraint.applyAll_nil_iff.mp hnil⟩

/-- A string with a pattern behind it has to match, and then there are captures for the body. -/
theorem takes_pattern {s : String} {form : Pattern}
    (hc : h.constraints = [.required argument .string, .pattern argument form])
    (hbody : ∀ call : Call, call.captures.isSome = true →
      ∃ text, c.carryOut (h.body call) = .ok text) :
    c.Takes h (.string s) ↔ s ≠ "" ∧ (form.match? s).isSome = true := by
  have hvalid : ∀ made, h.validate (.string s) = .ok made ↔
      s ≠ "" ∧ ∃ groups, form.match? s = some groups ∧ made = some groups := by
    intro made
    simp [validate_eq _ hc, Constraint.applyAll_cons_iff, Constraint.applyAll_nil_iff,
      Constraint.apply_required, Constraint.apply_pattern, Value.truthy, Value.shape?]
  constructor
  · rintro ⟨made, text, hmade, -⟩
    obtain ⟨hne, groups, hgroups, -⟩ := (hvalid made).mp hmade
    exact ⟨hne, by rw [hgroups]; rfl⟩
  · rintro ⟨hne, hmatch⟩
    obtain ⟨groups, hgroups⟩ := Option.isSome_iff_exists.mp hmatch
    obtain ⟨text, htext⟩ := hbody (h.callFor (.string s) (some groups)) rfl
    exact ⟨some groups, text, (hvalid _).mpr ⟨hne, groups, hgroups, rfl⟩, htext⟩

theorem makes_imageText {call : Call} (h : call.captures.isSome = true) :
    ∃ text, c.carryOut (Body.imageText call) = .ok text := by
  obtain ⟨groups, hgroups⟩ := Option.isSome_iff_exists.mp h
  exact ⟨_, by simp [Body.imageText, carryOut_pure, Call.capturesOrError, hgroups, Except.map]; rfl⟩

theorem makes_argumentText {call : Call} (h : call.captures.isSome = true) :
    ∃ text, c.carryOut (Body.argumentText call) = .ok text := by
  obtain ⟨groups, hgroups⟩ := Option.isSome_iff_exists.mp h
  exact ⟨_, by
    simp [Body.argumentText, carryOut_pure, Call.capturesOrError, hgroups, Except.map]; rfl⟩

/-- A reference is put together again from its groups. -/
theorem imageText_eq {call : Call} {s : String} {groups : Captures}
    (hmatch : Pattern.imageReference.match? s = some groups) (hcall : call.captures = some groups) :
    c.carryOut (Body.imageText call) = .ok s := by
  obtain ⟨⟨image, tail⟩, hsplit, rfl⟩ := Option.map_eq_some_iff.mp hmatch
  obtain ⟨hparts, himage, htail⟩ := Pattern.splitReference?_sound hsplit
  have htext : c.carryOut (Body.imageText call) =
      .ok (Layout.joinPresent ((tail.map fun cut => String.singleton cut.1).getD "")
        [some (String.ofList image), tail.map fun cut => String.ofList cut.2]) := by
    simp only [Body.imageText, carryOut_pure, Call.capturesOrError, hcall, Except.map]
    cases tail with
    | none => rfl
    | some cut => rfl
  rw [htext]
  cases tail with
  | none =>
      rw [Option.map_none, Option.map_none, Layout.joinPresent_single]
      exact congrArg Except.ok (String.toList_inj.mp (by simp [hparts, Pattern.tailChars]))
  | some cut =>
      have hfirst : String.ofList image ≠ "" := by simpa using himage
      have hsecond : String.ofList cut.2 ≠ "" := by simpa using htail cut rfl
      rw [Option.map_some, Option.map_some, Layout.joinPresent_pair _ hfirst hsecond]
      exact congrArg Except.ok (String.toList_inj.mp (by simp [hparts, Pattern.tailChars]))

/-- An assignment is put together again, but for a sign without a default behind it. -/
theorem argumentText_eq {call : Call} {s : String} {groups : Captures} {style : NameStyle}
    (hmatch : (Pattern.assignment style).match? s = some groups)
    (hcall : call.captures = some groups) :
    ∃ text, c.carryOut (Body.argumentText call) = .ok text ∧
      (text = s ∨ Pattern.NameForm style text.toList ∧ s = text ++ "=") := by
  obtain ⟨⟨name, value⟩, hsplit, rfl⟩ := Option.map_eq_some_iff.mp hmatch
  obtain ⟨hname, hparts, -⟩ := Pattern.splitAssignment?_sound hsplit
  have hfirst : String.ofList name ≠ "" := by
    obtain ⟨first, rest, rfl, -⟩ := hname
    simp
  have htext : c.carryOut (Body.argumentText call) =
      .ok (Layout.joinPresent "=" [some (String.ofList name), value.map String.ofList]) := by
    simp only [Body.argumentText, carryOut_pure, Call.capturesOrError, hcall, Except.map]
    cases value with
    | none => rfl
    | some value => rfl
  refine ⟨_, htext, ?_⟩
  cases value with
  | none =>
      rw [Option.map_none, Layout.joinPresent_single]
      exact .inl (String.toList_inj.mp (by simp [hparts]))
  | some value =>
      rw [Option.map_some]
      by_cases hvalue : value = []
      · rw [hvalue, String.ofList_nil, Layout.joinPresent_empty, String.toList_ofList]
        exact .inr ⟨hname, String.toList_inj.mp (by simp [hparts, hvalue])⟩
      · have hsecond : String.ofList value ≠ "" := by simpa using hvalue
        rw [Layout.joinPresent_pair "=" hfirst hsecond]
        exact .inl (String.toList_inj.mp (by simp [hparts]))

theorem takes_imageMapping
    (hc : h.constraints =
      [.requiredKey "image" [.string],
       .optionalKey "tag" [.string, .integer] (some "digest"),
       .optionalKey "digest" [.string] (some "tag"),
       .optionalKey "alias" [.string] none,
       .optionalKey "platform" [.string] none])
    (hb : h.body = .imageMapping) : c.Takes h (.mapping m) ↔ m.NamesImage := by
  have hvalid : ∀ made, h.validate (.mapping m) = .ok made ↔ m.NamesImage ∧ made = none := by
    intro made
    simp (disch := decide) only [validate_eq _ hc, Constraint.applyAll_cons_iff,
      Constraint.applyAll_nil_iff, Constraint.apply_optionalKey, Constraint.apply_requiredKey]
    constructor
    · rintro ⟨_, ⟨image, rfl⟩, _, ⟨tag, tagAlone, rfl⟩, _, ⟨digest, digestAlone, rfl⟩,
        _, ⟨stage, -, rfl⟩, _, ⟨platform, -, rfl⟩, rfl⟩
      exact ⟨⟨image, tag, tagAlone _ rfl, digest, digestAlone _ rfl, stage, platform⟩, rfl⟩
    · rintro ⟨him, rfl⟩
      refine ⟨_, ⟨him.image, rfl⟩, _, ⟨him.tag, ?_, rfl⟩, _, ⟨him.digest, ?_, rfl⟩,
        _, ⟨him.stage, by simp, rfl⟩, _, ⟨him.platform, by simp, rfl⟩, rfl⟩
      · rintro other ⟨⟩
        exact him.tagAlone
      · rintro other ⟨⟩
        exact him.digestAlone
  refine takes_iff_of_makes hvalid fun him => ?_
  rw [hb]
  -- the tag has been checked to be a string or an integer, which can be written
  cases htag : Constraint.givenKey? m "tag" with
  | none =>
      exact ⟨_, by
        simp [Body.imageMapping, carryOut_pure, Call.mapping, Handler.callFor, htag, bind,
          Except.bind]; rfl⟩
  | some tag =>
      obtain ⟨hget, hne⟩ := Constraint.givenKey?_eq_some_iff.mp htag
      have hscalar : tag.isCollection = false := by
        rcases him.tag tag hget with hnull | ⟨shape, hshape, hts⟩
        · exact absurd hnull hne
        · cases tag with
          | sequence items => cases hts; simp at hshape
          | mapping m => cases hts; simp at hshape
          | _ => rfl
      have htext := tag.scalarText?_isSome
      rw [hscalar] at htext
      obtain ⟨text, htext⟩ := Option.isSome_iff_exists.mp htext
      exact ⟨_, by
        simp [Body.imageMapping, carryOut_pure, Call.mapping, Call.scalar, Handler.callFor, htag,
          htext, bind, Except.bind, Except.map]; rfl⟩

/-! ### One entry -/

theorem validate_members {made : Option Captures} (hc : h.constraints = [.members argument 1]) :
    h.validate (.mapping m) = .ok made ↔ (∃ key v, m.entries = [(key, v)]) ∧ made = none := by
  simp only [validate_eq _ hc, Constraint.applyAll_cons_iff, Constraint.applyAll_nil_iff,
    Constraint.apply_members, Mapping.size, List.length_eq_one_iff, Prod.exists]
  constructor
  · rintro ⟨_, ⟨hone, rfl⟩, rfl⟩
    exact ⟨hone, rfl⟩
  · rintro ⟨hone, rfl⟩
    exact ⟨none, ⟨hone, rfl⟩, rfl⟩

/-- A mapping with one member is one entry. -/
theorem entry_of_members {v : Value} (hs : h.shape = .mapping)
    (hc : h.constraints = [.members argument 1]) {captures : Option Captures}
    (hv : v.shape? = some h.shape) (hvalid : h.validate v = .ok captures) :
    ∃ key inner, v = .mapping ⟨[(key, inner)]⟩ := by
  rw [hs] at hv
  obtain ⟨⟨entries⟩, rfl⟩ := Value.shape?_eq_mapping hv
  obtain ⟨⟨key, inner, rfl⟩, -⟩ := (validate_members hc).mp hvalid
  exact ⟨key, inner, rfl⟩

theorem takes_argumentMapping (hc : h.constraints = [.members argument 1])
    (hb : h.body = .argumentMapping) :
    c.Takes h (.mapping m) ↔ ∃ key v, m.entries = [(key, v)] ∧ v.isCollection = false := by
  have hbody : (∃ key v, m.entries = [(key, v)]) →
      ((∃ text, c.carryOut (h.body (h.callFor (.mapping m) none)) = .ok text) ↔
        ∀ key v, m.entries = [(key, v)] → v.isCollection = false) := by
    rintro ⟨key, v, hentries⟩
    have htext := v.scalarText?_isSome
    simp only [hb, Body.argumentMapping, carryOut_pure, Call.onlyEntry, Call.mapping,
      Handler.callFor, Mapping.first?, hentries, List.head?_cons, bind, Except.bind]
    cases v with
    | sequence items => simp [Call.scalar, Value.scalarText?, Value.isCollection, Except.map]
    | mapping m => simp [Call.scalar, Value.scalarText?, Value.isCollection, Except.map]
    | _ => simp [Call.scalar, Value.scalarText?, Value.isCollection, Except.map]
  rw [takes_iff (fun made => validate_members hc) hbody]
  constructor
  · rintro ⟨⟨key, v, hentries⟩, hscalar⟩
    exact ⟨key, v, hentries, hscalar key v hentries⟩
  · rintro ⟨key, v, hentries, hscalar⟩
    refine ⟨⟨key, v, hentries⟩, fun key' v' hentries' => ?_⟩
    rw [hentries] at hentries'
    cases hentries'
    exact hscalar

/-- A trigger takes an instruction that may be nested and has a line of its own. -/
theorem takes_trigger (hc : h.constraints = [.members argument 1]) (hb : h.body = .trigger) :
    c.Takes h (.mapping m) ↔ ∃ key v, m.entries = [(key, v)] ∧
      Text.asciiUpper key ∉ Body.notNestable ∧ ∃ line, c.line key v = .ok line := by
  have hbody : (∃ key v, m.entries = [(key, v)]) →
      ((∃ text, c.carryOut (h.body (h.callFor (.mapping m) none)) = .ok text) ↔
        ∀ key v, m.entries = [(key, v)] →
          Text.asciiUpper key ∉ Body.notNestable ∧ ∃ line, c.line key v = .ok line) := by
    rintro ⟨key, v, hentries⟩
    simp only [hb, Body.trigger, Call.onlyEntry, Call.mapping, Handler.callFor, Mapping.first?,
      hentries, List.head?_cons]
    by_cases hnest : Text.asciiUpper key ∈ Body.notNestable
    · simp [hnest]
    · simp only [hnest, if_false, carryOut_onLine]
      cases hline : c.line key v with
      | error e => simp [hline]
      | ok line => simp [hline, hnest]
  rw [takes_iff (fun made => validate_members hc) hbody]
  constructor
  · rintro ⟨⟨key, v, hentries⟩, hinner⟩
    exact ⟨key, v, hentries, hinner key v hentries⟩
  · rintro ⟨key, v, hentries, hinner⟩
    refine ⟨⟨key, v, hentries⟩, fun key' v' hentries' => ?_⟩
    rw [hentries] at hentries'
    cases hentries'
    exact hinner

/-! ### Health checks -/

/-- Options can be written as flags if none of them is a collection. -/
theorem flags_isOk_iff (call : Call) (options : Option Value) :
    (∃ text, Body.flags call options = .ok text) ↔
      ∀ given, options = some (.mapping given) → ∀ e ∈ given.entries, e.2.isCollection = false := by
  unfold Body.flags
  split
  · rename_i given
    have hgiven : (∀ given', some (Value.mapping given) = some (.mapping given') →
        ∀ e ∈ given'.entries, e.2.isCollection = false) ↔
          ∀ e ∈ given.entries, e.2.isCollection = false := by simp
    rw [hgiven, ← call.scalarPairs_isOk_iff given.entries]
    cases call.scalarPairs given.entries <;> simp [Except.map]
  · rename_i hnot
    exact iff_of_true ⟨_, rfl⟩ fun given hgiven => absurd hgiven (hnot given)

/-- A health check takes a command of which there is a line, and options that can be flags. -/
theorem takes_healthcheck
    (hc : h.constraints =
      [.requiredKey "cmd" [.string, .sequence, .mapping], .optionalKey "options" [.mapping] none])
    (hb : h.body = .healthcheck) :
    c.Takes h (.mapping m) ↔
      (m.Requires "cmd" [.string, .sequence, .mapping] ∧ m.Allows "options" [.mapping]) ∧
        (∀ given, m.get? "options" = some (.mapping given) →
          ∀ e ∈ given.entries, e.2.isCollection = false) ∧
        ∃ command, m.get? "cmd" = some command ∧ ∃ line, c.line "CMD" command = .ok line := by
  refine takes_iff (fun made => ?_) ?_
  · simp [validate_eq _ hc, Constraint.applyAll_cons_iff, Constraint.applyAll_nil_iff,
      Constraint.apply_requiredKey, Constraint.apply_optionalKey, and_assoc]
  · rintro ⟨⟨command, hcommand, -⟩, -⟩
    rw [← flags_isOk_iff (h.callFor (.mapping m) none)]
    simp only [hb, Body.healthcheck, Call.mapping, Handler.callFor, hcommand]
    cases Body.flags _ (m.get? "options") with
    | error e => simp
    | ok options =>
        simp only [carryOut_onLine]
        cases hline : c.line "CMD" command with
        | error e => simp [hline]
        | ok line => simp [hline]

/-- Null takes nothing but itself. -/
theorem takes_null (hc : h.constraints = []) (hb : h.body = .empty) : c.Takes h .null :=
  ⟨none, "", by rw [validate_eq _ hc, Constraint.applyAll_nil_iff], by rw [hb]; rfl⟩

end Converter

end ImageRecipe
