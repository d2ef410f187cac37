import ImageRecipe.Mapping
import ImageRecipe.Failure

/-!
# Searching for templates

Templates are the files of search directories, named by their relative paths.  Of two files with
one name the earlier directory's is taken, and the other one is not even read.

* `Directory` : what a walk through a directory meets
* `takeFiles`, `gather` : the files that are taken, from one directory and from all
* `completed` : their texts, with the built-in template if no directory has one of its name
* `sources` : the search
-/

namespace ImageRecipe.Template

/-- What a walk through a directory meets. -/
inductive Item where
  /-- A file: its text, or why there is none. -/
  | file (text : Except InputOutputError String)
  /-- A place where the walk cannot go on: the directory that is searched, and why. -/
  | fault (directory reason : String)

/-- What a directory holds, by relative path and in the order of the walk. -/
abbrev Directory := Mapping Item

/-- The name of the template that is used unless another one is asked for. -/
def defaultName : String := "Dockerfile"

/-- The template that is used if no directory has one of the default name: one line for each
instruction. -/
def builtinText : String :=
  "\x7b% for instruction in instructions -%\x7d\n" ++
  "\x7b\x7b docker_instruction(instruction=instruction) \x7d\x7d\n" ++
  "\x7b% endfor -%\x7d\n"

/-- Takes the files of a directory whose names are still free.  Where the walk cannot go on, nothing
is taken any more, whatever names are free. -/
def takeFiles (found : Mapping String) : List (String × Item) → Except Failure (Mapping String)
  | [] => .ok found
  | (_, .fault directory reason) :: _ => .error (.template (.scan directory reason))
  | (name, .file text) :: rest =>
    if found.contains name then takeFiles found rest
    else match text with
      | .error e => .error (.inputOutput e)
      | .ok text => takeFiles (found.insert name text) rest

/-- The files of search directories; what is no directory is skipped. -/
def gather (found : Mapping String) : List (Option Directory) → Except Failure (Mapping String)
  | [] => .ok found
  | none :: rest => gather found rest
  | some directory :: rest =>
    match takeFiles found directory.entries with
    | .error e => .error e
    | .ok found => gather found rest

/-- The texts of all templates, by name in ascending order, the built-in one among them if its name
is free. -/
def completed (found : Mapping String) : List (String × String) :=
  let found := if found.contains defaultName then found else found.insert defaultName builtinText
  found.entries.mergeSort fun a b => !(b.1 < a.1)

/-- The texts of all templates of search directories. -/
def sources (directories : List (Option Directory)) : Except Failure (List (String × String)) :=
  (gather .empty directories).map completed

end ImageRecipe.Template
