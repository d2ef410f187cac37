import ImageRecipe.Instruction.Registry

/-!
# Instruction lines

From an instruction object, a mapping with one entry, to its line.  A body may ask for the lines of
inner instructions, these for further ones, and nothing keeps bodies from going on like this; so a
conversion is told how deep instructions may nest.  A converter is a table whose bodies only ask
for lines of what stands inside their argument, and its depth bounds them all.

* `Plan.outcome?`, `Plan.outcome` : how a plan ends, once it is known how inner conversions end
* `HandlerTable.lineBy`, `HandlerTable.line?` : the line for a name and an argument, given the inner
  lines, and if these do not nest too deep
* `HandlerTable.line?_mono`, `HandlerTable.line?_isSome` : more depth changes nothing, enough depth
* `Value.asInstruction` : name and argument of an instruction object
* `Registry.convert` : the line of an object, building the registry's table where dispatch needs it
* `Converter` : a table whose conversions all end
* `Converter.line`, `Converter.convert`, `Converter.convertAll` : its lines
-/

namespace ImageRecipe

/-- The shape on which an argument is dispatched. -/
def Value.dispatchShape (name : String) (v : Value) : Except InstructionError Shape :=
  match v.shape? with
  | some shape => .ok shape
  | none => .error (.noShape (Text.asciiUpper name) v.kind)

/-- The name and the argument of an object with one entry. -/
def Value.asInstruction : Value → Except InstructionError (String × Value)
  | .mapping m =>
    match m.entries with
    | [entry] => .ok entry
    | _ => .error (.malformed (.notOneKey m.keys))
  | other => .error (.malformed (.notAMapping other.kind))

/-! ## Lines of a table -/

/-- How a plan ends, if the inner conversions that it asks for end. -/
def Plan.outcome? (line? : String → Value → Option (Except InstructionError String)) :
    Plan → Option (Except InstructionError String)
  | .done result => some result
  | .nested name inner resume => do
    let outcome ← line? name inner
    (resume outcome).outcome? line?

/-- A plan that ends with some inner conversions ends alike with others that end alike. -/
theorem Plan.outcome?_mono
    {line? line?' : String → Value → Option (Except InstructionError String)}
    (h : ∀ name v outcome, line? name v = some outcome → line?' name v = some outcome)
    {plan : Plan} {result : Except InstructionError String}
    (hresult : plan.outcome? line? = some result) : plan.outcome? line?' = some result := by
  induction plan with
  | done _ => exact hresult
  | nested name inner resume ih =>
      simp only [outcome?, Option.bind_eq_bind, Option.bind_eq_some_iff] at hresult ⊢
      obtain ⟨outcome, hinner, hresume⟩ := hresult
      exact ⟨outcome, h name inner outcome hinner, ih outcome hresume⟩

/-- A plan ends if all inner conversions up to its depth do. -/
theorem Plan.outcome?_isSome
    {line? : String → Value → Option (Except InstructionError String)} {depth : Nat}
    (h : ∀ name v, v.depth < depth → (line? name v).isSome) {plan : Plan}
    (hwithin : plan.Within depth) : (plan.outcome? line?).isSome := by
  induction hwithin with
  | done => rfl
  | @nested name inner resume deeper _ ih =>
      obtain ⟨outcome, houtcome⟩ := Option.isSome_iff_exists.mp (h name inner deeper)
      simpa [outcome?, houtcome] using ih outcome

namespace HandlerTable

/-- The line of an instruction, given those of inner ones: its argument is dispatched on its shape,
put to the constraints of the handler, and handed to the body. -/
def lineBy (t : HandlerTable) (inner? : String → Value → Option (Except InstructionError String))
    (name : String) (v : Value) : Option (Except InstructionError String) :=
  match v.dispatchShape name with
  | .error e => some (.error e)
  | .ok shape =>
    match t.lookup name shape with
    | .error e => some (.error e)
    | .ok h =>
      match h.validate v with
      | .error e => some (.error e)
      | .ok captures => ((h.body (h.callFor v captures)).outcome? inner?).map (·.map h.lineOf)

/-- The line of an instruction, if others nest at most `depth` deep inside it. -/
def line? (t : HandlerTable) : Nat → String → Value → Option (Except InstructionError String)
  | 0 => t.lineBy fun _ _ => none
  | depth + 1 => t.lineBy (t.line? depth)

/-- The line of an instruction object. -/
def convert? (t : HandlerTable) (depth : Nat) (object : Value) :
    Option (Except InstructionError String) :=
  match object.asInstruction with
  | .ok (name, v) => t.line? depth name v
  | .error e => some (.error e)

/-- All that a line can come from. -/
theorem lineBy_eq_some_iff {t : HandlerTable}
    {inner? : String → Value → Option (Except InstructionError String)} {name : String} {v : Value}
    {outcome : Except InstructionError String} :
    t.lineBy inner? name v = some outcome ↔
      (∃ e, v.dispatchShape name = .error e ∧ outcome = .error e) ∨
      (∃ shape e, v.dispatchShape name = .ok shape ∧ t.lookup name shape = .error e ∧
        outcome = .error e) ∨
      ∃ shape h, v.dispatchShape name = .ok shape ∧ t.lookup name shape = .ok h ∧
        ((∃ e, h.validate v = .error e ∧ outcome = .error e) ∨
          ∃ captures result, h.validate v = .ok captures ∧
            (h.body (h.callFor v captures)).outcome? inner? = some result ∧
              outcome = result.map h.lineOf) := by
  simp only [lineBy]
  cases v.dispatchShape name with
  | error e => simp [eq_comm]
  | ok shape =>
      cases hlookup : t.lookup name shape with
      | error e => simp [hlookup, eq_comm]
      | ok h =>
          cases hvalid : h.validate v with
          | error e => simp [hlookup, hvalid, eq_comm]
          | ok captures => simp [hlookup, hvalid, Option.map_eq_some_iff, @eq_comm _ outcome]

theorem lineBy_mono {t : HandlerTable}
    {inner? inner?' : String → Value → Option (Except InstructionError String)}
    (hinner : ∀ name v outcome, inner? name v = some outcome → inner?' name v = some outcome)
    {name : String} {v : Value} {outcome : Except InstructionError String}
    (h : t.lineBy inner? name v = some outcome) : t.lineBy inner?' name v = some outcome := by
  rw [lineBy_eq_some_iff] at h ⊢
  rcases h with herror | hmissing | ⟨shape, g, hshape, hlookup, hend⟩
  · exact .inl herror
  · exact .inr (.inl hmissing)
  · refine .inr (.inr ⟨shape, g, hshape, hlookup, ?_⟩)
    rcases hend with hinvalid | ⟨captures, result, hvalid, hresult, houtcome⟩
    · exact .inl hinvalid
    · exact .inr ⟨captures, result, hvalid, Plan.outcome?_mono hinner hresult, houtcome⟩

/-- What does not nest too deep for some depth does not for a greater one. -/
theorem line?_mono {t : HandlerTable} {depth deeper : Nat} (hle : depth ≤ deeper) {name : String}
    {v : Value} {outcome : Except InstructionError String}
    (h : t.line? depth name v = some outcome) : t.line? deeper name v = some outcome := by
  induction depth generalizing deeper name v outcome with
  | zero =>
      cases deeper with
      | zero => exact h
      | succ deeper => exact lineBy_mono (fun _ _ _ hnone => by cases hnone) h
  | succ depth ih =>
      obtain ⟨deeper, rfl⟩ : ∃ d, deeper = d + 1 := ⟨deeper - 1, by omega⟩
      exact lineBy_mono (fun _ _ _ hinner => ih (Nat.le_of_succ_le_succ hle) hinner) h

theorem lineBy_isSome {t : HandlerTable}
    (within : ∀ h ∈ t.handlers, ∀ call, (h.body call).Within call.value.depth)
    {inner? : String → Value → Option (Except InstructionError String)} {name : String} {v : Value}
    (hinner : ∀ name w, w.depth < v.depth → (inner? name w).isSome) :
    (t.lineBy inner? name v).isSome := by
  simp only [lineBy]
  cases v.dispatchShape name with
  | error e => rfl
  | ok shape =>
      simp only
      cases hlookup : t.lookup name shape with
      | error e => rfl
      | ok h =>
          simp only
          cases h.validate v with
          | error e => rfl
          | ok captures =>
              rw [Option.isSome_map]
              exact Plan.outcome?_isSome hinner
                (within h (mem_of_lookup hlookup) (h.callFor v captures))

/-- If bodies ask only for what nests less deep than their argument, the depth of the argument is
enough. -/
theorem line?_isSome {t : HandlerTable}
    (within : ∀ h ∈ t.handlers, ∀ call, (h.body call).Within call.value.depth)
    {depth : Nat} (name : String) (v : Value) (hdepth : v.depth ≤ depth) :
    (t.line? depth name v).isSome := by
  induction depth generalizing name v with
  | zero => exact lineBy_isSome within fun _ _ deeper => by omega
  | succ depth ih => exact lineBy_isSome within fun name w deeper => ih name w (by omega)

end HandlerTable

/-- The line of an instruction object.  The table is needed, and built, once there is a shape to
dispatch on. -/
def Registry.convert (r : Registry) (depth : Nat) (object : Value) :
    Option (Except InstructionError String) × Registry :=
  match object.asInstruction with
  | .error e => (some (.error e), r)
  | .ok (name, v) =>
    match v.dispatchShape name with
    | .error e => (some (.error e), r)
    | .ok _ =>
      let (t, r) := r.table
      (t.line? depth name v, r)

/-! ## Converters -/

/-- How a plan ends, all inner conversions having an end. -/
def Plan.outcome (line : String → Value → Except InstructionError String) :
    Plan → Except InstructionError String
  | .done result => result
  | .nested name inner resume => (resume (line name inner)).outcome line

/-- A table whose bodies ask only for lines of what nests less deep than their argument. -/
structure Converter where
  table : HandlerTable
  within : ∀ h ∈ table.handlers, ∀ call, (h.body call).Within call.value.depth

namespace Converter

/-- The line of an instruction. -/
def line (c : Converter) (name : String) (v : Value) : Except InstructionError String :=
  (c.table.line? v.depth name v).get (HandlerTable.line?_isSome c.within name v (Nat.le_refl _))

/-- How a plan ends. -/
def carryOut (c : Converter) (plan : Plan) : Except InstructionError String := plan.outcome c.line

/-- The line of an instruction object. -/
def convert (c : Converter) (object : Value) : Except InstructionError String :=
  match object.asInstruction with
  | .ok (name, v) => c.line name v
  | .error e => .error e

/-- The lines of instruction objects, up to the first failure. -/
def convertAll (c : Converter) : List Value → Except InstructionError (List String)
  | [] => .ok []
  | object :: rest =>
    match c.convert object with
    | .error e => .error e
    | .ok line => (c.convertAll rest).map (line :: ·)

/-! ### What a converter has from its table -/

/-- Its lines are those of the table, if the depth of the argument is allowed. -/
theorem line?_eq (c : Converter) {depth : Nat} (name : String) (v : Value)
    (hdepth : v.depth ≤ depth) : c.table.line? depth name v = some (c.line name v) := by
  have hline : c.table.line? v.depth name v = some (c.line name v) := by simp [line]
  exact HandlerTable.line?_mono hdepth hline

theorem outcome?_eq (c : Converter)
    {inner? : String → Value → Option (Except InstructionError String)} {depth : Nat}
    (hinner : ∀ name v, v.depth < depth → inner? name v = some (c.line name v)) {plan : Plan}
    (h : plan.Within depth) : plan.outcome? inner? = some (c.carryOut plan) := by
  induction h with
  | done => rfl
  | @nested name inner resume deeper _ ih =>
      rw [Plan.outcome?, hinner name inner deeper]
      exact ih (c.line name inner)

/-- The steps of a conversion. -/
theorem line_eq (c : Converter) (name : String) (v : Value) :
    c.line name v =
      match v.dispatchShape name with
      | .error e => .error e
      | .ok shape =>
        match c.table.lookup name shape with
        | .error e => .error e
        | .ok h =>
          match h.validate v with
          | .error e => .error e
          | .ok captures => (c.carryOut (h.body (h.callFor v captures))).map h.lineOf := by
  have hline := c.line?_eq name v (Nat.le_succ v.depth)
  rw [HandlerTable.line?, HandlerTable.lineBy] at hline
  apply Option.some.inj
  rw [← hline]
  cases v.dispatchShape name with
  | error e => rfl
  | ok shape =>
      simp only
      cases hlookup : c.table.lookup name shape with
      | error e => rfl
      | ok h =>
          simp only
          cases h.validate v with
          | error e => rfl
          | ok captures =>
              have hwithin : (h.body (h.callFor v captures)).Within v.depth :=
                c.within h (HandlerTable.mem_of_lookup hlookup) (h.callFor v captures)
              have hbody := c.outcome?_eq
                (fun name w deeper => c.line?_eq name w (Nat.le_of_lt deeper)) hwithin
              simp only [hbody, Option.map_some]

@[simp] theorem carryOut_text (c : Converter) (s : String) : c.carryOut (.text s) = .ok s := rfl

@[simp] theorem carryOut_fail (c : Converter) (e : InstructionError) :
    c.carryOut (.fail e) = .error e := rfl

/-- What a plan makes of the line of an inner instruction, or of its failure. -/
theorem carryOut_onLine (c : Converter) (name : String) (inner : Value)
    (resume : String → Plan) :
    c.carryOut (.onLine name inner resume) =
      match c.line name inner with
      | .ok line => c.carryOut (resume line)
      | .error e => .error e := by
  simp only [Plan.onLine, carryOut, Plan.outcome]
  cases c.line name inner <;> rfl

end Converter

end ImageRecipe
