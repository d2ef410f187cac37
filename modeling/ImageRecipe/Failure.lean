import ImageRecipe.Instruction.Error
import ImageRecipe.Document.Error
import ImageRecipe.Dockerfile.Verification
import ImageRecipe.Template.Rendering

/-!
# Failures

Everything that can end the way from a document to a Dockerfile, with the wording that users see
and the exit code by which a script tells the kinds apart.

* `InputOutputError` : why a file cannot be read or written
* `TemplateError` : why templates give no text
* `RenderError` : what an engine tells of a rendering that failed
* `Failure` : one of the five kinds, with `Failure.message` and `Failure.exitCode`
-/

namespace ImageRecipe

/-- Why a file cannot be read or written. -/
inductive InputOutputError where
  /-- There is nothing at the path. -/
  | notFound
  /-- There is a directory at the path. -/
  | isDirectory
  /-- There is a file where the path needs a directory. -/
  | notDirectory
  /-- The path, or a name on it, is too long. -/
  | nameTooLong
  /-- The bytes of the file are no text. -/
  | notText
  /-- Any other reason, in the words of the system. -/
  | other (reason : String)
  deriving DecidableEq, Repr

/-- The wording of each cause. -/
def InputOutputError.message : InputOutputError → String
  | .notFound => "No such file or directory (os error 2)"
  | .isDirectory => "Is a directory (os error 21)"
  | .notDirectory => "Not a directory (os error 20)"
  | .nameTooLong => "File name too long (os error 36)"
  | .notText => "stream did not contain valid UTF-8"
  | .other reason => reason

/-- Why templates give no text. -/
inductive TemplateError where
  /-- A search directory cannot be walked through. -/
  | scan (directory reason : String)
  /-- There is no template of this name. -/
  | unknown (name : String)
  /-- The texts make no library. -/
  | library (problem : Template.LibraryProblem)
  /-- The rendering failed. -/
  | rendering (problem : Template.RenderProblem)
  /-- Any other reason, in the words of the engine. -/
  | other (reason : String)

/-- The wording of each cause. -/
def TemplateError.message : TemplateError → String
  | .scan directory reason => "cannot scan template directory " ++ directory ++ ": " ++ reason
  | .unknown name => "template \"" ++ name ++ "\" not found in the search path"
  | .library problem => problem.message
  | .rendering problem => problem.message
  | .other reason => reason

/-- What an engine tells of a rendering that failed: why, and the instruction without a line that is
behind it, if there is one. -/
structure RenderError where
  cause : TemplateError
  instruction? : Option InstructionError

/-- The problem of a rendering, with what is behind its fault. -/
def RenderError.ofProblem (problem : Template.RenderProblem) : RenderError :=
  ⟨.rendering problem, problem.fault.instruction?⟩

/-- What a process tells the one that started it. -/
inductive ExitCode where
  | success
  | document
  | instruction
  | template
  | dockerfile
  | inputOutput
  | usage
  /-- The process gave up. -/
  | panic
  deriving DecidableEq, Repr

/-- The number of an exit code. -/
def ExitCode.toNat : ExitCode → Nat
  | .success => 0
  | .document => 2
  | .instruction => 3
  | .template => 4
  | .dockerfile => 5
  | .inputOutput => 6
  | .usage => 64
  | .panic => 101

/-- Why there is no Dockerfile. -/
inductive Failure where
  | instruction (cause : InstructionError)
  | document (cause : DocumentError)
  | template (cause : TemplateError)
  | dockerfile (cause : Dockerfile.DockerfileError)
  | inputOutput (cause : InputOutputError)

namespace Failure

/-- The kind of the failure and the wording of its cause. -/
def message : Failure → String
  | .instruction cause => "conversion error: " ++ cause.message
  | .document cause => "document error: " ++ cause.message
  | .template cause => "template error: " ++ cause.message
  | .dockerfile cause => "dockerfile parse error: " ++ cause.message
  | .inputOutput cause => "io error: " ++ cause.message

/-- The exit code of each kind. -/
def exitCode : Failure → ExitCode
  | .instruction _ => .instruction
  | .document _ => .document
  | .template _ => .template
  | .dockerfile _ => .dockerfile
  | .inputOutput _ => .inputOutput

/-- A failed rendering.  If an instruction without a line is behind it, that is the failure. -/
def ofRendering (e : RenderError) : Failure :=
  match e.instruction? with
  | some cause => .instruction cause
  | none => .template e.cause

end Failure

end ImageRecipe
