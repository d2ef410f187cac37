import ImageRecipe.Text.Quoted

/-!
# What a run tells of itself

Beside its result a run tells, on stderr, what it does and what may be wrong.  How much of that is
written depends on how often `-v` is there, or on a filter that takes its place.

* `Event` : something that is told, with `Event.level` and `Event.text`
* `Journal` : which events are written, and how
-/

namespace ImageRecipe.CommandLine

/-- How much an event matters. -/
inductive Level where
  | warning
  | information
  deriving DecidableEq, Repr

/-- The word for a level in front of an event. -/
def Level.word : Level → String
  | .warning => " WARN"
  | .information => " INFO"

/-- A level is told of if `-v` is there as often as this. -/
def Level.isTold (verbosity : Nat) : Level → Bool
  | .warning => true
  | .information => 1 ≤ verbosity

/-- Something that a run tells.  What only a second `-v` brings up is left out. -/
inductive Event where
  /-- There is no directory where templates were to be searched for. -/
  | noDirectory (path : String)
  /-- A template is about to be rendered with so many instructions. -/
  | rendering (template : String) (instructions : Nat)
  /-- The Dockerfile has been verified: the numbers of its instructions and stages. -/
  | verified (instructions stages : Nat)
  /-- The Dockerfile has been written to a path. -/
  | wrote (path : String)
  deriving DecidableEq, Repr

namespace Event

/-- How much each event matters. -/
def level : Event → Level
  | .noDirectory _ => .warning
  | .rendering .. | .verified .. | .wrote _ => .information

/-- The wording of an event, with what it is about. -/
def text : Event → String
  | .noDirectory path => "template search path is not a directory, skipping path=" ++ path
  | .rendering template instructions =>
    "rendering dockerfile template=" ++ Text.quoted template ++ " instructions=" ++
      toString instructions
  | .verified instructions stages =>
    "generated dockerfile verified instructions=" ++ toString instructions ++ " stages=" ++
      toString stages
  | .wrote path => "wrote dockerfile path=" ++ path

end Event

/-- How events are written. -/
structure Journal where
  /-- The events that are written, if that is not left to the number of times that `-v` is there. -/
  filter? : Option (Event → Bool) := none
  /-- The line for an event. -/
  line : Event → String

namespace Journal

/-- The event is written. -/
def admits (j : Journal) (verbosity : Nat) (e : Event) : Bool :=
  match j.filter? with
  | some admitted => admitted e
  | none => e.level.isTold verbosity

/-- What is written for an event. -/
def text (j : Journal) (verbosity : Nat) (e : Event) : String :=
  if j.admits verbosity e then j.line e else ""

/-- Nothing is written. -/
def silent : Journal := ⟨some fun _ => false, fun _ => ""⟩

end Journal

end ImageRecipe.CommandLine
