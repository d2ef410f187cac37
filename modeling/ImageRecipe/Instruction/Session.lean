import ImageRecipe.Instruction.Line

/-!
# Sessions with a registry

A run of requests to one registry, each with its answer.  What a request answers and what it does
to the registry is `Registry.step`; a whole run is `Registry.runSession`, and what it leaves behind
`Registry.after`.
-/

namespace ImageRecipe

/-- What can be asked of a registry; a conversion comes with the depth to which instructions may
nest. -/
inductive Request where
  | register (h : Handler)
  | lookup (name : String) (shape : Shape)
  | invalidate
  | table
  | rebuild
  | listHandlers
  | convert (depth : Nat) (object : Value)

/-- What a registry answers. -/
inductive Reply where
  | registered (outcome : Except InstructionError Unit)
  | found (outcome : Except InstructionError Handler)
  | invalidated
  | table (t : HandlerTable)
  | handlers (hs : List Handler)
  | line (outcome : Option (Except InstructionError String))

namespace Registry

/-- Answers one request.  A registration that is refused changes nothing. -/
def step (r : Registry) : Request → Reply × Registry
  | .register h =>
    match r.register h with
    | .ok r => (.registered (.ok ()), r)
    | .error e => (.registered (.error e), r)
  | .lookup name shape =>
    let (found, r) := r.lookup name shape
    (.found found, r)
  | .invalidate => (.invalidated, r.invalidate)
  | .table =>
    let (t, r) := r.table
    (.table t, r)
  | .rebuild =>
    let (t, r) := r.rebuild
    (.table t, r)
  | .listHandlers =>
    let (hs, r) := r.inOrder
    (.handlers hs, r)
  | .convert depth object =>
    let (line, r) := r.convert depth object
    (.line line, r)

/-- Answers requests one after the other; each answer comes with the registry it leaves behind. -/
def runSession (r : Registry) : List Request → List (Reply × Registry)
  | [] => []
  | request :: rest =>
    let (reply, r) := r.step request
    (reply, r) :: r.runSession rest

/-- The registry that a run leaves behind. -/
def after (r : Registry) (requests : List Request) : Registry :=
  requests.foldl (fun r request => (r.step request).2) r

end Registry

end ImageRecipe
