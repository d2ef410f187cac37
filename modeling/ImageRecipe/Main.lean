import ImageRecipe.CommandLine.Run

/-!
# The program

`CommandLine.execute` in a process: the actions of a run on real files.
-/

namespace ImageRecipe.Main

open CommandLine

/-- The reason why a file cannot be used. -/
def reasonOf (e : IO.Error) : InputOutputError :=
  match e with
  | .noFileOrDirectory _ _ _ => .notFound
  | .inappropriateType _ _ _ => .notDirectory
  | .invalidArgument _ 36 _ => .nameTooLong
  | other => .other (toString other)

/-- What an action gives, or the reason why it gives nothing. -/
def attempt {α : Type} (action : IO α) : IO (Except InputOutputError α) := do
  try
    return .ok (← action)
  catch e =>
    return .error (reasonOf e)

/-- The text of bytes. -/
def decode (bytes : ByteArray) : Except InputOutputError String :=
  match String.fromUTF8? bytes with
  | some text => .ok text
  | none => .error .notText

/-- The text of a file. -/
def readText (path : String) : IO (Except InputOutputError String) := do
  let here ← IO.currentDir
  if ← (here / path).isDir then return .error .isDirectory
  return (← attempt (IO.FS.readBinFile path)).bind decode

/-- The text of stdin. -/
def readStdin : IO (Except InputOutputError String) := do
  return (← attempt do (← IO.getStdin).readBinToEnd).bind decode

/-! ## Walks -/

/-- The walk cannot go on at a path. -/
def faultAt (directory path : String) (e : InputOutputError) : Template.Item :=
  .fault directory ("IO error for operation on " ++ path ++ ": " ++ e.message)

/-- What a walk below a path meets, in the order of the names: by path behind `front`.  Links are
followed, unless they lead back to one of the directories in which the walk is. -/
partial def walk (directory path front : String) (around : List String) :
    IO (List (String × Template.Item)) := do
  let here ← IO.currentDir
  match ← attempt (here / path).readDir with
  | .error e => return [(front, faultAt directory path e)]
  | .ok entries =>
    let mut met := []
    for entry in entries.qsort fun a b => a.fileName < b.fileName do
      let below := path ++ "/" ++ entry.fileName
      let name := front ++ entry.fileName
      match ← attempt (here / below).metadata with
      | .error e => met := met ++ [(name, faultAt directory below e)]
      | .ok metadata =>
        if metadata.type == .dir then
          let place := toString (← IO.FS.realPath (here / below))
          if around.contains place then
            met := met ++ [(name, .fault directory
              ("File system loop found: " ++ below ++ " points to an ancestor " ++ place))]
          else met := met ++ (← walk directory below (name ++ "/") (place :: around))
        else if metadata.type == .file then
          met := met ++ [(name, .file (← readText below))]
    return met

/-- What a walk through a directory meets, if there is one. -/
def walkThrough (path : String) : IO (Option Template.Directory) := do
  let here ← IO.currentDir
  if ← (here / path).isDir then
    let place := toString (← IO.FS.realPath (here / path))
    return some ⟨← walk path path "" [place]⟩
  else return none

/-! ## Events -/

/-- The events that a word in the environment asks for. -/
def filterOf : String → Option (Event → Bool)
  | "off" | "error" => some fun _ => false
  | "warn" => some fun e => e.level = .warning
  | "info" | "debug" | "trace" => some fun _ => true
  | _ => none

/-- The journal of a process. -/
def journal : IO Journal := do
  let word ← IO.getEnv "RUST_LOG"
  return ⟨word.bind filterOf, fun e => e.level.word ++ " " ++ e.text ++ "\n"⟩

instance : Surroundings IO where
  stdin := readStdin
  read := readText
  scan := walkThrough
  print text := attempt do
    (← IO.getStdout).putStr text
    (← IO.getStdout).flush
  write path text := do
    let here ← IO.currentDir
    if ← (here / path).isDir then return .error .isDirectory
    attempt (IO.FS.writeFile path text)
  tell verbosity event := do
    (← IO.getStderr).putStr ((← journal).text verbosity event)

/-- A run of the program. -/
def program (arguments : List String) : IO UInt32 := do
  match ← (execute .standard arguments : Stage IO Unit).run with
  | .ok () => return ExitCode.success.toNat.toUInt32
  | .error complaint =>
    (← IO.getStderr).putStr complaint.text
    return complaint.code.toNat.toUInt32

end ImageRecipe.Main

/-- Runs the program. -/
def main (arguments : List String) : IO UInt32 := ImageRecipe.Main.program arguments
