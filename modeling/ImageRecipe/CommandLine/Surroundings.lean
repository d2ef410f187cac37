import ImageRecipe.CommandLine.Event
import ImageRecipe.CommandLine.FileTree

/-!
# The surroundings of a run

A run reads, writes and tells by six actions only.  They are there in a process, and in a world that
is a value, where it can be told what a run has done.

* `Surroundings` : the actions
* `FileSystem` : files as runs see them, of which a `FileTree` is one example
* `Scene` : what a run finds
* `World` : the scene with what was written to stdout and stderr, and the actions on it
-/

namespace ImageRecipe.CommandLine

/-- What a run can do. -/
class Surroundings (m : Type → Type) where
  /-- The text of stdin. -/
  stdin : m (Except InputOutputError String)
  /-- The text of a file. -/
  read : String → m (Except InputOutputError String)
  /-- What a walk through a directory meets, if there is one. -/
  scan : String → m (Option Template.Directory)
  /-- Writes to stdout.  If it cannot, a part of the text may have been written. -/
  print : String → m (Except InputOutputError Unit)
  /-- Puts a text at a path, in place of what is there. -/
  write : String → String → m (Except InputOutputError Unit)
  /-- Tells of an event, where `-v` is there as often as this. -/
  tell : Nat → Event → m Unit

/-- What can be done where nothing ends a run can be done where something may. -/
instance {m : Type → Type} {ε : Type} [Monad m] [Surroundings m] :
    Surroundings (ExceptT ε m) where
  stdin := ExceptT.lift Surroundings.stdin
  read path := ExceptT.lift (Surroundings.read path)
  scan path := ExceptT.lift (Surroundings.scan path)
  print text := ExceptT.lift (Surroundings.print text)
  write path text := ExceptT.lift (Surroundings.write path text)
  tell verbosity event := ExceptT.lift (Surroundings.tell verbosity event)

/-- Files as runs see them. -/
class FileSystem (F : Type) where
  /-- The text of a file. -/
  read : F → String → Except InputOutputError String
  /-- What a walk through a directory meets, if there is one. -/
  scan : F → String → Option Template.Directory
  /-- Puts a text at a path.  What the files are then is told for a failure, too. -/
  write : F → String → String → Except InputOutputError Unit × F

/-- A write to a file tree succeeds, or leaves it as it is. -/
instance : FileSystem FileTree where
  read := FileTree.read
  scan := FileTree.scan
  write files path text :=
    match files.write path text with
    | .ok after => (.ok (), after)
    | .error e => (.error e, files)

/-- What a run finds. -/
structure Scene (F : Type) where
  /-- What stdin holds. -/
  stdin : Except InputOutputError String
  files : F
  /-- Whether stdout refuses a text, after what it has taken before: if so, the part of the text
  that it takes all the same, and why no more. -/
  refusal? : String → String → Option (String × InputOutputError) := fun _ _ => none
  /-- How events are written to stderr. -/
  journal : Journal := .silent

/-- The scene of a run, with what was written to stdout and stderr. -/
structure World (F : Type) where
  scene : Scene F
  stdout : String
  stderr : String

namespace World

variable {F : Type}

/-- The world in which a run starts. -/
def start (scene : Scene F) : World F := ⟨scene, "", ""⟩

/-- Writes to stdout. -/
def print (w : World F) (text : String) : Except InputOutputError Unit × World F :=
  match w.scene.refusal? w.stdout text with
  | none => (.ok (), { w with stdout := w.stdout ++ text })
  | some (part, e) => (.error e, { w with stdout := w.stdout ++ part })

variable [FileSystem F]

/-- Puts a text at a path. -/
def write (w : World F) (path text : String) : Except InputOutputError Unit × World F :=
  let (result, files) := FileSystem.write w.scene.files path text
  (result, { w with scene := { w.scene with files } })

/-- Tells of an event. -/
def tell (w : World F) (verbosity : Nat) (event : Event) : World F :=
  { w with stderr := w.stderr ++ w.scene.journal.text verbosity event }

instance : Surroundings (StateM (World F)) where
  stdin := modifyGet fun w => (w.scene.stdin, w)
  read path := modifyGet fun w => (FileSystem.read w.scene.files path, w)
  scan path := modifyGet fun w => (FileSystem.scan w.scene.files path, w)
  print text := modifyGet fun w => w.print text
  write path text := modifyGet fun w => w.write path text
  tell verbosity event := modifyGet fun w => ((), w.tell verbosity event)

end World

end ImageRecipe.CommandLine
