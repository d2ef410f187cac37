import ImageRecipe.Json.Printer
import ImageRecipe.Template.Fault
import ImageRecipe.Template.Path
import ImageRecipe.Template.Pointer

/-!
# Names and what they stand for

Names are looked up from the innermost frame outwards, and last in the variables that a template is
rendered with.  A frame in which the path leads nowhere is passed over, even if it has its root.

* `Round` : the round that a loop is in
* `Frame`, `Scope` : what names stand for
* `Scope.find?`, `Scope.lookUp` : the value at the end of a path
* `Scope.assign` : sets a name
-/

namespace ImageRecipe.Template

/-- The round that a loop is in. -/
structure Round where
  keyName : Option String
  valueName : String
  key : String
  value : Json
  index : Nat
  count : Nat

namespace Round

/-- What a path stands for in a round: the state of the loop, the key, or the value or a part of
it. -/
def find? (r : Round) (path : String) : Option Json :=
  if path = "loop.index" then some (.ofNat (r.index + 1))
  else if path = "loop.index0" then some (.ofNat r.index)
  else if path = "loop.first" then some (.bool (r.index == 0))
  else if path = "loop.last" then some (.bool (r.index + 1 == r.count))
  else if r.keyName = some path then some (.string r.key)
  else
    let (root, rest) := Path.splitAtPoint path
    if root = r.valueName then r.value.at? (rest.getD "") else none

end Round

/-- What names stand for in one part of a rendering: in a template, or in one round of a loop. -/
structure Frame where
  template : String
  assigned : Mapping Json
  round : Option Round

/-- What a path stands for among names that have been set. -/
def assigned? (assigned : Mapping Json) (path : String) : Option Json :=
  match Path.splitAtPoint path with
  | (root, some rest) => (assigned.get? root).bind (·.at? rest)
  | (root, none) => assigned.get? root

/-- What a path stands for in a frame. -/
def Frame.find? (f : Frame) (path : String) : Option Json :=
  match assigned? f.assigned path with
  | some j => some j
  | none => f.round.bind (·.find? path)

/-- The frames, innermost first, and the variables of the rendering. -/
structure Scope where
  frames : List Frame
  vars : Mapping Json

namespace Scope

/-- What a path stands for among the variables of the rendering. -/
def findVar? (vars : Mapping Json) (path : String) : Option Json :=
  match Path.splitAtPoint path with
  | (root, some _) =>
    let key := Pointer.unescaped root
    (vars.get? key).bind (·.at? (String.ofList (path.toList.drop (key.length + 1))))
  | (root, none) => vars.get? root

/-- What a path without brackets stands for. -/
def find? (s : Scope) (path : String) : Option Json :=
  match s.frames.findSome? fun f => f.find? path with
  | some j => some j
  | none => findVar? s.vars path

/-- The template that is being rendered. -/
def template (s : Scope) : String :=
  match s.frames with
  | f :: _ => f.template
  | [] => ""

/-! ## Paths -/

/-- How a value in brackets stands in a path: a string in quotes, a number as it is. -/
def nameIn? : Json → Option String
  | .string name => some ("\"" ++ name ++ "\"")
  | .whole n => some (Decimal.integerText n.value)
  | .real x => some (Decimal.scientific.text x.value)
  | _ => none

/-- The path with the values of its inner paths in place of these, one after the other. -/
def fillAll (lookUp : String → Except Fault Json) (path : String) :
    List String → String → Except Fault String
  | [], text => .ok text
  | name :: rest, text =>
    match lookUp name with
    | .error e => .error (.unresolved path e)
    | .ok j =>
      match nameIn? j with
      | none => .error (.notAName name path)
      | some value => fillAll lookUp path rest (Path.fill text name value)

/-- The value at the end of a path whose brackets nest less than `bound` deep. -/
def lookUpWithin (s : Scope) : Nat → String → Except Fault Json
  | 0, path => .error (.missing path s.template none)
  | bound + 1, path =>
    if Path.isBracketed path then
      match fillAll (s.lookUpWithin bound) path (Path.inner path) path with
      | .error e => .error e
      | .ok filled =>
        let pointed := Path.pointed filled
        match s.find? pointed with
        | some j => .ok j
        | none => .error (.missing path s.template (some pointed))
    else
      match s.find? path with
      | some j => .ok j
      | none => .error (.missing path s.template none)

/-- The value at the end of a path; the text itself bounds how deep its brackets nest. -/
def lookUp (s : Scope) (p : Path) : Except Fault Json :=
  s.lookUpWithin (p.written.length + 1) p.written

/-! ## Assignment -/

/-- Sets a name in the innermost frame that is no round of a loop. -/
def assignOutside (name : String) (j : Json) : List Frame → List Frame
  | [] => []
  | f :: rest =>
    if f.round.isSome && !rest.isEmpty then f :: assignOutside name j rest
    else { f with assigned := f.assigned.insert name j } :: rest

/-- Sets a name in the innermost frame, or outside of the loops around it. -/
def assign (s : Scope) (name : String) (outside : Bool) (j : Json) : Scope :=
  match s.frames with
  | [] => s
  | f :: rest =>
    if outside then { s with frames := assignOutside name j (f :: rest) }
    else { s with frames := { f with assigned := f.assigned.insert name j } :: rest }

end Scope

end ImageRecipe.Template
