import ImageRecipe.Shape
import ImageRecipe.Decimal.Notation
import ImageRecipe.Text.Quoted
import ImageRecipe.Layout

/-!
# What can go wrong with an instruction

Each failure names the instruction it was raised for, so that a message leads back to the entry of
the document.  The wording of all of them is in `InstructionError.message`.

* `DefinitionFault` : why a handler cannot be registered
* `MalformedObject` : why a value is no instruction object
* `InstructionError` : why an instruction has no line
-/

namespace ImageRecipe

/-- Why the definition of a handler is refused, or shows itself to be wrong when called. -/
inductive DefinitionFault where
  /-- The name is empty or holds white space. -/
  | nameNotAWord
  /-- A constraint stands behind the one that replaces the argument by captures. -/
  | afterPattern (constraint : String)
  /-- The constraint asks for another shape than the handler's. -/
  | neverHolds (constraint : String) (shape : Shape)
  /-- The constraint looks at keys, integers, texts or members that the shape does not have. -/
  | needs (constraint wanted : String)
  /-- A key is declared to exclude itself. -/
  | excludesItself (key : String)
  /-- No number lies within the bounds. -/
  | emptyBounds (lower upper : Int64)
  /-- The body is declared to read captures, which no constraint makes. -/
  | capturesNeverMade
  /-- The body read captures that were not made. -/
  | capturesAbsent
  /-- There is a handler for this instruction and shape already. -/
  | duplicate (key : String)
  deriving DecidableEq

/-- The wording of each fault. -/
def DefinitionFault.message : DefinitionFault → String
  | .nameNotAWord => "instruction name must be a single non-empty word"
  | .afterPattern constraint => constraint ++ " cannot follow a regex match constraint"
  | .neverHolds constraint shape =>
    constraint ++ " can never hold for a " ++ shape.text ++ " handler"
  | .needs constraint wanted => constraint ++ " needs " ++ wanted ++ " handler"
  | .excludesItself key => "key \"" ++ key ++ "\" cannot exclude itself"
  | .emptyBounds lower upper =>
    "empty bounds " ++ Decimal.integerText lower.toInt ++ "..=" ++ Decimal.integerText upper.toInt
  | .capturesNeverMade => "body reads captures but no regex match constraint produces them"
  | .capturesAbsent => "body reads captures but has no regex match"
  | .duplicate key => "more than one handler registered for " ++ key

/-- Why a value is not an instruction object. -/
inductive MalformedObject where
  | notAMapping (kind : String)
  | notOneKey (keys : List String)
  deriving DecidableEq

/-- The wording of each reason. -/
def MalformedObject.message : MalformedObject → String
  | .notAMapping kind => "expected a mapping with one instruction, got a " ++ kind
  | .notOneKey keys =>
    "expected exactly one instruction key, got " ++ Decimal.naturalText keys.length ++ " [" ++
      Layout.joinWith ", " keys ++ "]"

/-- Why an instruction object has no line. -/
inductive InstructionError where
  | argumentMissing (instruction argument usage : String)
  | argumentType (instruction argument expected received : String)
  | argumentsExclusive (instruction argument other : String)
  | outOfBounds (instruction argument : String) (value lower upper : Int64)
  | patternMismatch (instruction argument value pattern : String)
  | wrongLength (instruction argument : String) (expected received : Nat)
  | noShape (instruction received : String)
  | notNestable (instruction nested : String)
  | noHandler (instruction : String) (shape : Shape)
  | malformed (reason : MalformedObject)
  | definition (instruction : String) (fault : DefinitionFault)
  deriving DecidableEq

namespace InstructionError

/-- The instruction that an error was raised for; a malformed object has none. -/
def instruction? : InstructionError → Option String
  | .argumentMissing i _ _ | .argumentType i _ _ _ | .argumentsExclusive i _ _
  | .outOfBounds i _ _ _ _ | .patternMismatch i _ _ _ | .wrongLength i _ _ _ | .noShape i _
  | .notNestable i _ | .noHandler i _ | .definition i _ => some i
  | .malformed _ => none

/-- The words `instruction "NAME"`. -/
def subject (instruction : String) : String := "instruction " ++ Layout.wrapInQuotes instruction

/-- The wording of each error. -/
def message : InstructionError → String
  | .argumentMissing i argument usage =>
    subject i ++ " is missing argument " ++ Layout.wrapInQuotes argument ++
      " (usage: " ++ usage ++ ")"
  | .argumentType i argument expected received =>
    subject i ++ " expects argument " ++ Layout.wrapInQuotes argument ++ " of type " ++
      Layout.wrapInQuotes expected ++ " but got " ++ Layout.wrapInQuotes received
  | .argumentsExclusive i argument other =>
    subject i ++ " supports " ++ Layout.wrapInQuotes argument ++ " or " ++
      Layout.wrapInQuotes other ++ " arguments, not both"
  | .outOfBounds i argument value lower upper =>
    subject i ++ " expects argument " ++ Layout.wrapInQuotes argument ++ " within " ++
      Decimal.integerText lower.toInt ++ "..=" ++ Decimal.integerText upper.toInt ++
      " but got " ++ Decimal.integerText value.toInt
  | .patternMismatch i argument value pattern =>
    subject i ++ " has malformed argument " ++ Layout.wrapInQuotes argument ++ ": " ++
      Text.quoted value ++ " does not match " ++ pattern
  | .wrongLength i argument expected received =>
    subject i ++ " expects argument " ++ Layout.wrapInQuotes argument ++ " with exactly " ++
      Decimal.naturalText expected ++ " member(s) but got " ++ Decimal.naturalText received
  | .noShape i received =>
    subject i ++ " has an argument of unsupported kind " ++ Layout.wrapInQuotes received
  | .notNestable i nested =>
    subject i ++ " cannot wrap a nested " ++ Layout.wrapInQuotes nested ++ " instruction"
  | .noHandler i shape =>
    "no handler for " ++ subject i ++ " with a " ++ shape.text ++ " argument"
  | .malformed reason => "malformed instruction object: " ++ reason.message
  | .definition i fault =>
    "invalid handler definition for " ++ Layout.wrapInQuotes i ++ ": " ++ fault.message

end InstructionError

end ImageRecipe
