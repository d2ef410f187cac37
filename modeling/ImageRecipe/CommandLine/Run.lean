import ImageRecipe.Instruction.Builtin
import ImageRecipe.Renderer
import ImageRecipe.CommandLine.Options
import ImageRecipe.CommandLine.Surroundings

/-!
# Runs of the program

The program is written down once, for any surroundings.

* `Stage` : a part of a run, which a complaint may end
* `Supplies` : what others supply, the template engine and the texts that explain the program
* `draft`, `prepare`, `generate` : the stages from a document to a Dockerfile, and to where it goes
* `execute` : what a run does
* `runIn`, `run` : what it leaves behind in a scene, or among files
-/

namespace ImageRecipe.CommandLine

/-- An end without success: the exit code and what is told. -/
structure Complaint where
  code : ExitCode
  message : String
  deriving DecidableEq, Repr

namespace Complaint

/-- A complaint about the way the program was called. -/
def usage (message : String) : Complaint := ⟨.usage, message⟩

/-- A failure as a complaint. -/
def ofFailure (f : Failure) : Complaint := ⟨f.exitCode, f.message⟩

/-- A failure that has to do with a path. -/
def atPath (path : String) (f : Failure) : Complaint := ⟨f.exitCode, path ++ ": " ++ f.message⟩

/-- Something that cannot be read or written, as a complaint. -/
def ofInputOutput (e : InputOutputError) : Complaint := ofFailure (.inputOutput e)

/-- An explanation that cannot be written makes the process give up. -/
def givingUp (e : InputOutputError) : Complaint :=
  ⟨.panic, "failed printing to stdout: " ++ e.message⟩

/-- The complaint as it is told. -/
def text (c : Complaint) : String := if c.message.isEmpty then "" else c.message ++ "\n"

end Complaint

/-! ## Stages -/

/-- A part of a run.  A complaint ends the run. -/
abbrev Stage (m : Type → Type) : Type → Type := ExceptT Complaint m

variable {m : Type → Type} [Monad m] [Surroundings m]

/-- Goes on with a result, or ends with a complaint about its error. -/
def orComplain {ε α : Type} (complaint : ε → Complaint) (r : Except ε α) : Stage m α :=
  ExceptT.mk (pure (r.mapError complaint))

/-- Told when there is nothing to read a document from. -/
def noDocument : String := "the following required arguments were not provided:\n  <DOCUMENT>"

/-- Told when a document is named and stdin is to be read. -/
def twoDocuments : String := "--stdin is mutually exclusive with DOCUMENT"

/-- The document comes from stdin or from a file, but not from both. -/
def validate (o : Options) : Stage m Unit :=
  if o.stdin && o.document.isSome then throw (.usage twoDocuments)
  else if !o.stdin && o.document.isNone then throw (.usage noDocument)
  else pure ()

/-- The text of a file. -/
def readFile (path : String) : Stage m String := do
  let text ← Surroundings.read path
  orComplain (fun e => .atPath path (.inputOutput e)) text

/-- The text of the document. -/
def readDocument (o : Options) : Stage m String :=
  if o.stdin then do
    let text ← Surroundings.stdin
    orComplain .ofInputOutput text
  else
    match o.document with
    | some path => readFile path
    | none => throw (.usage noDocument)

/-- The variables of a file, if one is named. -/
def readVariables : Option String → Stage m (Mapping Value)
  | none => pure .empty
  | some path => do
    let text ← readFile path
    orComplain (fun e => .atPath path (.document e)) (variablesOfText text)

/-- The templates of search directories, one directory after the other, behind those that were found
before. -/
def collect (verbosity : Nat) : List String → Mapping String → Stage m (Mapping String)
  | [], found => pure found
  | path :: rest, found => do
    match ← Surroundings.scan path with
    | none =>
      Surroundings.tell verbosity (.noDirectory path)
      collect verbosity rest found
    | some directory =>
      let found ← orComplain .ofFailure (Template.takeFiles found directory.entries)
      collect verbosity rest found

/-- The Dockerfile that a template makes of a document. -/
def renderDocument {E : Template.Engine} (o : Options) (renderer : Renderer E) (document : Document)
    (vars : Mapping Value) : Stage m String := do
  if renderer.hasTemplate o.templateName then
    Surroundings.tell o.verbosity (.rendering o.templateName document.instructions.length)
  orComplain .ofFailure (renderer.render o.templateName document vars)

/-- The text is a Dockerfile, if that is to be verified. -/
def verifyIf (o : Options) (text : String) : Stage m Unit :=
  if o.verify then do
    let found ← orComplain (fun e => .ofFailure (.dockerfile e)) (Dockerfile.verify text)
    Surroundings.tell o.verbosity (.verified found.instructions.length found.stages)
  else pure ()

/-- Writes to stdout. -/
def say (complaint : InputOutputError → Complaint) (text : String) : Stage m Unit := do
  let printed ← Surroundings.print text
  orComplain complaint printed

/-- Puts a text at a path or, if there is none, writes it to stdout. -/
def writeOutput (o : Options) (text : String) : Stage m Unit :=
  match o.output with
  | some path => do
    let written ← Surroundings.write path text
    orComplain (fun e => .atPath path (.inputOutput e)) written
    Surroundings.tell o.verbosity (.wrote path)
  | none => say .ofInputOutput text

/-! ## Dockerfiles -/

/-- What others supply. -/
structure Supplies where
  engine : Template.Engine
  /-- The text that explains a topic, short or long. -/
  help : Topic → Bool → String
  /-- The text that makes a shell complete command lines. -/
  completion : Shell → String

/-- The engine of this library.  Texts that explain the program are written by others, and left
out. -/
def Supplies.standard : Supplies := ⟨.modelled, fun _ _ => "", fun _ => ""⟩

/-- The Dockerfile that options ask for: the text of the document is rendered, read as a document,
and rendered again with a template. -/
def draft (s : Supplies) (o : Options) : Stage m String := do
  validate o
  let text ← readDocument o
  let templateVariables ← readVariables o.templateVariables
  let buildVariables ← readVariables o.buildVariables
  let source ← orComplain .ofFailure (renderSource text templateVariables s.engine)
  let document ← orComplain (fun e => .ofFailure (.document e)) (Document.ofText source)
  let found ← collect o.verbosity o.searchPaths .empty
  let renderer ← orComplain .ofFailure
    (Renderer.ofSources .builtin (Template.completed found) s.engine)
  renderDocument o renderer document (.merge [templateVariables, buildVariables])

/-- The Dockerfile that options ask for, verified if it is to be. -/
def prepare (s : Supplies) (o : Options) : Stage m String := do
  let dockerfile ← draft s o
  verifyIf o dockerfile
  return dockerfile

/-- Makes the Dockerfile that options ask for. -/
def generate (s : Supplies) (o : Options) : Stage m Unit := do
  let dockerfile ← prepare s o
  writeOutput o dockerfile

/-! ## Lists -/

/-- A text filled up with spaces. -/
def padded (width : Nat) (s : String) : String :=
  s ++ String.ofList (List.replicate (width - s.length) ' ')

/-- The line for a handler: instruction, shape and usage. -/
def handlerLine (h : Handler) : String :=
  padded 12 h.instruction ++ " " ++ padded 9 h.shape.text ++ " " ++ h.usage ++ "\n"

/-- The name and the version of the program. -/
def versionText : String := "dfgen 0.1.0\n"

/-! ## Whole runs -/

/-- Writes lines one after the other. -/
def sayAll : List String → Stage m Unit
  | [] => pure ()
  | line :: rest => do
    say .ofInputOutput line
    sayAll rest

/-- What a run does. -/
def execute (s : Supplies) (arguments : List String) : Stage m Unit :=
  match Command.ofArguments arguments with
  | .error e => throw (.usage e.message)
  | .ok .version => say .givingUp versionText
  | .ok (.help topic long) => say .givingUp (s.help topic long)
  | .ok (.completion shell) => say .givingUp (s.completion shell)
  | .ok .instructions => sayAll (HandlerTable.builtin.handlers.map handlerLine)
  | .ok (.generate o) => generate s o

/-- The end of a run and the files after it. -/
structure Outcome (F : Type) where
  code : ExitCode
  stdout : String
  stderr : String
  files : F

/-- The end of a run that has left the world like this. -/
def Outcome.of {F : Type} (result : Except Complaint Unit) (w : World F) : Outcome F :=
  match result with
  | .ok () => ⟨.success, w.stdout, w.stderr, w.scene.files⟩
  | .error complaint => ⟨complaint.code, w.stdout, w.stderr ++ complaint.text, w.scene.files⟩

/-- A run in a scene. -/
def runIn {F : Type} [FileSystem F] (s : Supplies) (arguments : List String) (scene : Scene F) :
    Outcome F :=
  let (result, w) := (execute s arguments : Stage (StateM (World F)) Unit).run.run (.start scene)
  .of result w

/-- The scene of files and of a stdin that holds a text, or bytes that are none; stdout takes all,
and no events are written. -/
def Scene.plain {F : Type} (files : F) (stdin : Option String) : Scene F where
  stdin := match stdin with
    | some text => .ok text
    | none => .error .notText
  files := files

/-- A run with files and stdin. -/
def run (arguments : List String) (files : FileTree) (stdin : Option String) : Outcome FileTree :=
  runIn .standard arguments (.plain files stdin)

end ImageRecipe.CommandLine
