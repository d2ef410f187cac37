import ImageRecipe.Proofs.Instruction.Session
import ImageRecipe.Proofs.Text.LetterCase

/-!
# Sessions in capitals

A registry never uses a name as it was written, but in capitals.  So it does not matter whether the
names of a session are put into capitals before the session or, in what it shows, behind it.

* `Handler.inCapitals`, `Registry.inCapitals`, `Request.inCapitals`, `Reply.inCapitals` : a name in
  capitals, wherever it stands
* `Registry.step_inCapitals`, `Registry.runSession_inCapitals` : one request, and a session
* `HandlerTable.lookup_congr_name`, `Registry.convert_congr_name` : names with the same capitals
-/

namespace ImageRecipe

/-! ## Handlers -/

/-- The handler with its name in capitals. -/
def Handler.inCapitals (h : Handler) : Handler := { h with name := h.instruction }

namespace Handler

variable (h : Handler)

@[simp] theorem instruction_inCapitals : h.inCapitals.instruction = h.instruction :=
  Text.asciiUpper_asciiUpper h.name

@[simp] theorem key_inCapitals : h.inCapitals.key = h.key :=
  congrArg (HandlerKey.mk · h.shape) h.instruction_inCapitals

@[simp] theorem checkDefinition_inCapitals : h.inCapitals.checkDefinition = h.checkDefinition := by
  simp only [checkDefinition, instruction_inCapitals]
  rfl

@[simp] theorem validate_inCapitals (v : Value) : h.inCapitals.validate v = h.validate v := by
  simp only [validate, instruction_inCapitals]
  rfl

@[simp] theorem callFor_inCapitals (v : Value) (captures : Option Captures) :
    h.inCapitals.callFor v captures = h.callFor v captures := by
  simp only [callFor, instruction_inCapitals]
  rfl

@[simp] theorem lineOf_inCapitals : h.inCapitals.lineOf = h.lineOf := by
  funext text
  simp only [lineOf, instruction_inCapitals]

end Handler

/-! ## Tables -/

namespace HandlerTable

/-- The table with the names of its handlers in capitals. -/
def inCapitals (t : HandlerTable) : HandlerTable :=
  { t with handlers := t.handlers.map Handler.inCapitals }

theorem insertSorted_inCapitals (h : Handler) (sorted : List Handler) :
    insertSorted h.inCapitals (sorted.map Handler.inCapitals) =
      (insertSorted h sorted).map Handler.inCapitals := by
  induction sorted with
  | nil => rfl
  | cons g rest ih =>
      simp only [insertSorted, List.map_cons, Handler.key_inCapitals, ih]
      split
      · rfl
      · split
        · rfl
        · rfl

theorem sort_inCapitals (hs : List Handler) :
    sort (hs.map Handler.inCapitals) = (sort hs).map Handler.inCapitals := by
  have hfold : ∀ hs sorted : List Handler,
      (hs.map Handler.inCapitals).foldl (fun sorted h => insertSorted h sorted)
          (sorted.map Handler.inCapitals) =
        (hs.foldl (fun sorted h => insertSorted h sorted) sorted).map Handler.inCapitals := by
    intro hs
    induction hs with
    | nil => exact fun _ => rfl
    | cons h rest ih =>
        intro sorted
        rw [List.map_cons, List.foldl_cons, List.foldl_cons, insertSorted_inCapitals]
        exact ih _
  exact hfold hs []

theorem lookup_inCapitals (t : HandlerTable) (name : String) (shape : Shape) :
    t.inCapitals.lookup name shape = (t.lookup name shape).map Handler.inCapitals := by
  have hfind : t.inCapitals.find? (.of name shape) =
      (t.find? (.of name shape)).map Handler.inCapitals := by
    simp only [find?, inCapitals, List.find?_map, Function.comp_def, Handler.key_inCapitals]
  simp only [lookup, hfind]
  cases t.find? (.of name shape) with
  | none => rfl
  | some h => rfl

variable {t : HandlerTable}

/-- A conversion sees the name of a handler in capitals only. -/
theorem lineBy_inCapitals (inner? : String → Value → Option (Except InstructionError String))
    (name : String) (v : Value) : t.inCapitals.lineBy inner? name v = t.lineBy inner? name v := by
  simp only [lineBy]
  cases v.dispatchShape name with
  | error e => rfl
  | ok shape =>
      simp only [lookup_inCapitals]
      cases t.lookup name shape with
      | error e => rfl
      | ok h =>
          simp only [Except.map, Handler.validate_inCapitals, Handler.callFor_inCapitals,
            Handler.lineOf_inCapitals]
          rfl

theorem line?_inCapitals (t : HandlerTable) (depth : Nat) :
    t.inCapitals.line? depth = t.line? depth := by
  induction depth with
  | zero => exact funext₂ fun name v => lineBy_inCapitals _ name v
  | succ depth ih =>
      funext name v
      rw [line?, line?, ih]
      exact lineBy_inCapitals _ name v

/-! ### Names with the same capitals -/

variable {a b : String}

theorem lookup_congr_name (h : Text.asciiUpper a = Text.asciiUpper b) (shape : Shape) :
    t.lookup a shape = t.lookup b shape := by
  simp only [lookup, HandlerKey.of, h]

theorem line?_congr_name (h : Text.asciiUpper a = Text.asciiUpper b) (depth : Nat) (v : Value) :
    t.line? depth a v = t.line? depth b v := by
  have hlineBy : ∀ inner?, t.lineBy inner? a v = t.lineBy inner? b v := by
    intro inner?
    simp only [lineBy, Value.dispatchShape, lookup_congr_name h, h]
  cases depth with
  | zero => exact hlineBy _
  | succ depth => exact hlineBy _

end HandlerTable

/-! ## Instruction objects -/

namespace Value

/-- The object with one instruction. -/
def object (name : String) (v : Value) : Value := .mapping ⟨[(name, v)]⟩

/-- An instruction object with its name in capitals. -/
def inCapitals : Value → Value
  | .mapping ⟨[(name, v)]⟩ => .object (Text.asciiUpper name) v
  | other => other

theorem asInstruction_inCapitals (object : Value) :
    object.inCapitals.asInstruction =
      object.asInstruction.map fun pair => (Text.asciiUpper pair.1, pair.2) := by
  cases object with
  | mapping m =>
      obtain ⟨entries⟩ := m
      match entries with
      | [] => rfl
      | [_] => rfl
      | _ :: _ :: _ => rfl
  | _ => rfl

end Value

/-! ## Registries -/

/-- The request with the name that it gives in capitals. -/
def Request.inCapitals : Request → Request
  | .register h => .register h.inCapitals
  | .lookup name shape => .lookup (Text.asciiUpper name) shape
  | .convert depth object => .convert depth object.inCapitals
  | .invalidate => .invalidate
  | .table => .table
  | .rebuild => .rebuild
  | .listHandlers => .listHandlers

/-- The answer with the names of the handlers that it shows in capitals. -/
def Reply.inCapitals : Reply → Reply
  | .found outcome => .found (outcome.map Handler.inCapitals)
  | .table t => .table t.inCapitals
  | .handlers hs => .handlers (hs.map Handler.inCapitals)
  | .registered outcome => .registered outcome
  | .invalidated => .invalidated
  | .line outcome => .line outcome

namespace Registry

/-- The registry with the names of its handlers in capitals. -/
def inCapitals (r : Registry) : Registry :=
  { r with
    handlers := r.handlers.map Handler.inCapitals
    kept := r.kept.map HandlerTable.inCapitals }

variable (r : Registry)

theorem rebuild_inCapitals :
    r.inCapitals.rebuild = (r.rebuild.1.inCapitals, r.rebuild.2.inCapitals) := by
  simp only [rebuild, inCapitals, HandlerTable.inCapitals, HandlerTable.sort_inCapitals,
    Option.map_some]

theorem table_inCapitals :
    r.inCapitals.table = (r.table.1.inCapitals, r.table.2.inCapitals) := by
  cases hkept : r.kept with
  | none =>
      have htable : r.table = r.rebuild := by simp only [table, hkept]
      have htable' : r.inCapitals.table = r.inCapitals.rebuild := by
        simp only [table, inCapitals, hkept, Option.map_none]
      rw [htable, htable', rebuild_inCapitals]
  | some t => simp only [table, inCapitals, hkept, Option.map_some]

theorem register_inCapitals (h : Handler) :
    r.inCapitals.register h.inCapitals = (r.register h).map inCapitals := by
  have hkey : r.inCapitals.hasKey h.key = r.hasKey h.key := by
    simp only [hasKey, inCapitals, List.any_map, Function.comp_def, Handler.key_inCapitals]
  simp only [register, Handler.checkDefinition_inCapitals, Handler.key_inCapitals, hkey,
    Handler.instruction_inCapitals]
  cases h.checkDefinition with
  | error e => rfl
  | ok sound =>
      simp only
      split
      · rfl
      · simp only [Except.map, invalidate, inCapitals, List.map_append, List.map_cons,
          List.map_nil, Option.map_none]

theorem convert_inCapitals (depth : Nat) (object : Value) :
    r.inCapitals.convert depth object.inCapitals =
      ((r.convert depth object).1, (r.convert depth object).2.inCapitals) := by
  simp only [convert, Value.asInstruction_inCapitals]
  cases object.asInstruction with
  | error e => rfl
  | ok pair =>
      obtain ⟨name, v⟩ := pair
      have hcapitals := Text.asciiUpper_asciiUpper name
      have hshape : v.dispatchShape (Text.asciiUpper name) = v.dispatchShape name := by
        simp only [Value.dispatchShape, hcapitals]
      simp only [Except.map, hshape]
      cases v.dispatchShape name with
      | error e => rfl
      | ok shape =>
          simp only [table_inCapitals, HandlerTable.line?_inCapitals,
            HandlerTable.line?_congr_name hcapitals]

/-- One request in capitals, to the registry in capitals, has the answer in capitals. -/
theorem step_inCapitals (request : Request) :
    r.inCapitals.step request.inCapitals =
      ((r.step request).1.inCapitals, (r.step request).2.inCapitals) := by
  cases request with
  | register h =>
      simp only [Request.inCapitals, step, register_inCapitals]
      cases r.register h with
      | error e => rfl
      | ok r' => rfl
  | lookup name shape =>
      simp only [Request.inCapitals, Reply.inCapitals, step, lookup, table_inCapitals,
        HandlerTable.lookup_inCapitals,
        HandlerTable.lookup_congr_name (Text.asciiUpper_asciiUpper name)]
  | invalidate => rfl
  | table => simp only [Request.inCapitals, Reply.inCapitals, step, table_inCapitals]
  | rebuild => simp only [Request.inCapitals, Reply.inCapitals, step, rebuild_inCapitals]
  | listHandlers =>
      simp only [Request.inCapitals, Reply.inCapitals, step, inOrder, table_inCapitals,
        HandlerTable.inCapitals]
  | convert depth object =>
      simp only [Request.inCapitals, Reply.inCapitals, step, convert_inCapitals]

/-- A session in capitals has the answers in capitals. -/
theorem runSession_inCapitals (requests : List Request) :
    r.inCapitals.runSession (requests.map Request.inCapitals) =
      (r.runSession requests).map fun answer => (answer.1.inCapitals, answer.2.inCapitals) := by
  -- the first request leaves a registry in capitals to the others
  induction requests generalizing r with
  | nil => rfl
  | cons request rest ih =>
      simp only [List.map_cons, runSession, step_inCapitals, ih]

variable {r} {a b : String}

/-- Objects whose names have the same capitals are converted alike. -/
theorem convert_congr_name (h : Text.asciiUpper a = Text.asciiUpper b) (depth : Nat) (v : Value) :
    r.convert depth (.object a v) = r.convert depth (.object b v) := by
  simp only [convert, Value.object, Value.asInstruction, Value.dispatchShape, h]
  cases v.shape? with
  | none => rfl
  | some shape => simp only [HandlerTable.line?_congr_name h]

end Registry

end ImageRecipe
