import ImageRecipe.Template.Search

/-!
# File trees

Files and directories from the top of a system down, with a working directory, and what reading and
writing does there.

* `FileTree` : files by the names on the way to them
* `FileTree.spot` : what stands at a path as it is written
* `FileTree.read`, `FileTree.scan`, `FileTree.write` : as a process sees them
-/

namespace ImageRecipe

/-- Files and directories by the names on the way to them from the top, and the working directory.
A file whose bytes are no text has none. -/
structure FileTree where
  files : List (List String × Option String)
  directories : List (List String)
  here : List String

namespace FileTree

/-- The directories that stand at the top of every system. -/
def topDirectories : List String :=
  ["bin", "dev", "etc", "home", "lib", "media", "mnt", "opt", "proc", "root", "run", "sbin", "srv",
    "sys", "tmp", "usr", "var"]

/-- There is nothing in the working directory, and no file anywhere. -/
def empty : FileTree :=
  ⟨[], topDirectories.map (fun name => [name]) ++ [["tmp", "work"]], ["tmp", "work"]⟩

/-- The file at a place. -/
def file? (t : FileTree) (place : List String) : Option (Option String) :=
  (t.files.find? fun f => f.1 = place).map Prod.snd

/-- There is a directory at a place. -/
def isDirectory (t : FileTree) (place : List String) : Bool :=
  place.isEmpty || t.directories.contains place

/-- Puts a file at a place, in place of the one that may be there. -/
def putAt (t : FileTree) (place : List String) (text : Option String) : FileTree :=
  { t with files := (place, text) :: t.files.filter fun f => f.1 ≠ place }

/-- Puts a file at a path from the working directory. -/
def putFile (t : FileTree) (path : List String) (text : Option String) : FileTree :=
  t.putAt (t.here ++ path) text

/-- Makes the directories on the way to a path from the working directory, and one at it. -/
def makeDirectories (t : FileTree) (path : List String) : FileTree :=
  let needed := (List.range path.length).map fun n => t.here ++ path.take (n + 1)
  { t with directories := t.directories ++ needed.filter fun d => !t.directories.contains d }

/-! ## Paths as they are written -/

/-- What stands at a path. -/
inductive Spot where
  /-- A file; `asDirectory` tells that the path wants it to be a directory. -/
  | file (place : List String) (asDirectory : Bool)
  | directory (place : List String)
  /-- Nothing, but a file may be put there unless the path wants a directory. -/
  | free (place : List String) (asDirectory : Bool)
  /-- The device that holds nothing and takes everything. -/
  | null
  deriving DecidableEq, Repr

/-- Names have at most 255 bytes. -/
def isLongName (name : String) : Bool := 255 < name.utf8ByteSize

/-- Paths have less than 4096 bytes. -/
def isLongPath (path : String) : Bool := 4096 ≤ path.utf8ByteSize

/-- Where the null device is. -/
def nullPlace : List String := ["dev", "null"]

/-- What stands at the end of the names, from a directory on. -/
def spotFrom (t : FileTree) : List String → List String → Except InputOutputError Spot
  | place, [] => .ok (.directory place)
  | place, name :: rest =>
    if name = "" ∨ name = "." then spotFrom t place rest
    else if name = ".." then spotFrom t place.dropLast rest
    else if isLongName name then .error .nameTooLong
    else
      let next := place ++ [name]
      let isLast := rest.all (· = "")
      if t.isDirectory next then spotFrom t next rest
      else if next = nullPlace then
        if rest.isEmpty then .ok .null else .error .notDirectory
      else if (t.file? next).isSome then
        if isLast then .ok (.file next !rest.isEmpty) else .error .notDirectory
      else if isLast then .ok (.free next !rest.isEmpty)
      else .error .notFound

/-- What stands at a path. -/
def spot (t : FileTree) (path : String) : Except InputOutputError Spot :=
  if isLongPath path then .error .nameTooLong
  else match path.splitOn "/" with
    | [""] => .error .notFound
    | "" :: names => t.spotFrom [] names
    | names => t.spotFrom t.here names

/-! ## What processes do -/

/-- The text of a file. -/
def read (t : FileTree) (path : String) : Except InputOutputError String :=
  match t.spot path with
  | .error e => .error e
  | .ok (.directory _) => .error .isDirectory
  | .ok (.free _ _) => .error .notFound
  | .ok (.file _ true) => .error .notDirectory
  | .ok .null => .ok ""
  | .ok (.file place false) =>
    match t.file? place with
    | some (some text) => .ok text
    | some none => .error .notText
    | none => .error .notFound

/-- What a walk through a file with a text, or without one, meets. -/
def itemOf : Option String → Template.Item
  | some text => .file (.ok text)
  | none => .file (.error .notText)

/-- The files below a directory by relative path, in the order of their names, if there is one. -/
def scan (t : FileTree) (path : String) : Option Template.Directory :=
  match t.spot path with
  | .ok (.directory place) =>
    let below := t.files.filter fun f => place.isPrefixOf f.1
    some ⟨(below.mergeSort fun a b => !(b.1 < a.1)).map fun f =>
      (String.intercalate "/" (f.1.drop place.length), itemOf f.2)⟩
  | _ => none

/-- The tree with a text at a path; the null device keeps nothing. -/
def write (t : FileTree) (path text : String) : Except InputOutputError FileTree :=
  match t.spot path with
  | .error e => .error e
  | .ok (.directory _) => .error .isDirectory
  | .ok (.free _ true) | .ok (.file _ true) => .error .isDirectory
  | .ok .null => .ok t
  | .ok (.free place false) | .ok (.file place false) => .ok (t.putAt place (some text))

end FileTree

end ImageRecipe
