import ImageRecipe.Value.Depth
import ImageRecipe.Text.Letters
import ImageRecipe.Instruction.Constraint

/-!
# Handlers

The conversion of one kind of argument of one instruction.  A handler says what it asks of its
argument and computes the text that follows the instruction's name.

* `HandlerKey` : instruction and shape, the key of dispatch, with its order
* `Plan` : what a body answers, which may need the lines of inner instructions
* `Handler` : name, shape, constraints and body
* `Handler.checkDefinition` : which handlers make sense
-/

namespace ImageRecipe

/-! ## Keys -/

/-- The instruction's name, in capitals, and the shape of its argument. -/
structure HandlerKey where
  instruction : String
  shape : Shape
  deriving DecidableEq

namespace HandlerKey

/-- The key for a name in any ASCII case. -/
def of (name : String) (shape : Shape) : HandlerKey := ⟨Text.asciiUpper name, shape⟩

/-- How listings and messages show a key. -/
def text (key : HandlerKey) : String := key.instruction ++ " (" ++ key.shape.text ++ ")"

/-- Keys are ordered by name, then by shape. -/
def before (a b : HandlerKey) : Bool :=
  a.instruction < b.instruction || (a.instruction == b.instruction && a.shape.rank < b.shape.rank)

end HandlerKey

/-! ## Bodies -/

/-- What a body sees of a call. -/
structure Call where
  instruction : String
  usage : String
  value : Value
  captures : Option Captures

/-- What a body answers for a call: a text, an error, or the wish for the line of an inner
instruction, with what to do once it is known how that conversion ended. -/
inductive Plan where
  | done (result : Except InstructionError String)
  | nested (name : String) (inner : Value) (resume : Except InstructionError String → Plan)

namespace Plan

/-- The body is finished with this text. -/
def text (s : String) : Plan := .done (.ok s)

/-- The body fails. -/
def fail (e : InstructionError) : Plan := .done (.error e)

/-- Asks for the line of an inner instruction.  A failure of the inner instruction is the failure
of the outer one. -/
def onLine (name : String) (inner : Value) (resume : String → Plan) : Plan :=
  .nested name inner fun outcome =>
    match outcome with
    | .ok line => resume line
    | .error e => .fail e

/-- Every inner argument nests less deep than `depth`, however the inner conversions end. -/
inductive Within (depth : Nat) : Plan → Prop where
  | done {result : Except InstructionError String} : Within depth (.done result)
  | nested {name : String} {inner : Value} {resume : Except InstructionError String → Plan} :
      inner.depth < depth → (∀ outcome, Within depth (resume outcome)) →
        Within depth (.nested name inner resume)

/-- What is done with the line has to keep within the depth, a failure always does. -/
theorem Within.onLine {depth : Nat} {name : String} {inner : Value} {resume : String → Plan}
    (deeper : inner.depth < depth) (h : ∀ line, Within depth (resume line)) :
    Within depth (Plan.onLine name inner resume) :=
  .nested deeper fun outcome => by
    cases outcome with
    | ok line => exact h line
    | error e => exact .done

end Plan

/-- Computes what follows the instruction's name. -/
abbrev Body := Call → Plan

namespace Call

/-- The captures of the call; a body without a pattern before it has none. -/
def capturesOrError (call : Call) : Except InstructionError Captures :=
  match call.captures with
  | some captures => .ok captures
  | none => .error (.definition call.instruction .capturesAbsent)

/-- An argument of the call, or a part of it, is of the wrong kind. -/
def mismatch (call : Call) (argument expected : String) (found : Value) : InstructionError :=
  .argumentType call.instruction argument expected found.kind

end Call

/-! ## Handlers -/

/-- The conversion of arguments of one shape for one instruction. -/
structure Handler where
  /-- The instruction's name, in any case. -/
  name : String
  shape : Shape
  usage : String
  /-- What the argument has to satisfy, in this order. -/
  constraints : List Constraint := []
  /-- The body reads captures, so that some constraint has to make them. -/
  readsCaptures : Bool := false
  body : Body

namespace Handler

/-- The instruction's name in capitals. -/
def instruction (h : Handler) : String := Text.asciiUpper h.name

/-- The key under which a handler is found. -/
def key (h : Handler) : HandlerKey := ⟨h.instruction, h.shape⟩

/-- Checks each constraint, knowing whether a pattern stands before it, and tells whether there is
a pattern. -/
def checkConstraints (instruction : String) (shape : Shape) :
    Bool → List Constraint → Except InstructionError Bool
  | afterPattern, [] => .ok afterPattern
  | afterPattern, c :: rest =>
    match c.checkDefinition instruction shape afterPattern with
    | .error e => .error e
    | .ok () => checkConstraints instruction shape (afterPattern || c.isPattern) rest

/-- Refuses a handler whose name is not one word, whose constraints do not suit its shape, or
whose body reads captures that no constraint makes. -/
def checkDefinition (h : Handler) : Except InstructionError Unit :=
  if h.instruction.isEmpty || h.instruction.toList.any Text.isBlank then
    .error (.definition h.instruction .nameNotAWord)
  else
    match checkConstraints h.instruction h.shape false h.constraints with
    | .error e => .error e
    | .ok patternSeen =>
      if h.readsCaptures && !patternSeen then
        .error (.definition h.instruction .capturesNeverMade)
      else .ok ()

/-- Puts an argument through the constraints, and gives the captures they make. -/
def validate (h : Handler) (v : Value) : Except InstructionError (Option Captures) :=
  Constraint.applyAll h.instruction h.usage v none h.constraints

/-- The call that the body sees for an argument. -/
def callFor (h : Handler) (v : Value) (captures : Option Captures) : Call :=
  ⟨h.instruction, h.usage, v, captures⟩

/-- The instruction's name before the text of a body. -/
def lineOf (h : Handler) (text : String) : String := h.instruction ++ " " ++ text

end Handler

end ImageRecipe
