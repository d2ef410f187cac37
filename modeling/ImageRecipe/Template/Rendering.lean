import ImageRecipe.Text.Cluster
import ImageRecipe.Template.Evaluation
import ImageRecipe.Template.Library

/-!
# Rendering templates

Nodes are done in order, each on the state that the one before it left: what names stand for, and
what has been written.

* `Run` : the state of a rendering
* `runNodes` : nodes in order, with `jump` for the nodes of other templates
* `Member.render` : a template, from its topmost parent down
-/

namespace ImageRecipe.Template

/-! ## State -/

/-- What a node says about the loop around it. -/
inductive Signal where
  /-- The next node follows. -/
  | proceed
  /-- The loop is left. -/
  | leave
  /-- The next round follows. -/
  | next
  deriving DecidableEq, Repr

/-- The state of a rendering. -/
structure Run where
  frames : List Frame
  written : String
  /-- The block that was entered last. -/
  entered : Option String

/-- A fault, and the block that was entered last before it. -/
structure Stop where
  fault : Fault
  entered : Option String

/-- What a node makes of a state. -/
abbrev Outcome := Except Stop (Run × Signal)

/-- What does not change during a rendering. -/
structure Stage where
  library : Library
  functions : String → Option Function
  vars : Mapping Json

namespace Run

/-- What expressions are evaluated in. -/
def setting (r : Run) (stage : Stage) : Setting := ⟨⟨r.frames, stage.vars⟩, stage.functions⟩

/-- Goes on with a state. -/
def proceed (r : Run) : Outcome := .ok (r, .proceed)

/-- Stops with a fault. -/
def stop (r : Run) (fault : Fault) : Outcome := .error ⟨fault, r.entered⟩

/-- Writes text. -/
def write (r : Run) (text : String) : Run := { r with written := r.written ++ text }

/-- The innermost frame is a round of a loop. -/
def isInRound (r : Run) : Bool :=
  match r.frames with
  | f :: _ => f.round.isSome
  | [] => false

/-- The template that is being rendered. -/
def template (r : Run) : String :=
  match r.frames with
  | f :: _ => f.template
  | [] => ""

/-- Takes the innermost frame away. -/
def leaveFrame (r : Run) : Run := { r with frames := r.frames.tail }

end Run

/-! ## Loops -/

/-- How messages name what a loop goes through; it is a variable, a call or an array. -/
def Heading.containerName (h : Heading) : Except Fault String :=
  match h.container with
  | .mk (.path p) _ _ => .ok p.written
  | .mk (.call name _) _ _ => .ok name
  | .mk (.array _) _ _ => .ok "an array literal"
  | .mk other _ _ => .error (.loopOver other.outline)

/-- What a loop over a text meets.  There are as many rounds as characters, and each meets a
cluster as long as there is one. -/
def textEntries (s : String) : List (String × Json) :=
  let found := (Text.clusters s.toList).map String.ofList
  let missing := s.length - found.length
  (found ++ List.replicate missing "").map fun cluster => ("", .string cluster)

/-- What a loop goes through: keys, which are empty if there are none, and values. -/
def Heading.entries (h : Heading) (name : String) (container : Json) :
    Except Fault (List (String × Json)) :=
  match container, h.key with
  | .array items, none => .ok (items.map fun item => ("", item))
  | .string s, none => .ok (textEntries s)
  | .array _, some _ | .string _, some _ => .error (.loopWithoutKeys name)
  | .object members, some _ => .ok members.entries
  | .object _, none => .error (.loopNeedsKeys name)
  | _, _ => .error (.loopUnsupported name)

/-- What a loop goes through, once its container is known. -/
def Heading.rounds (h : Heading) (s : Setting) : Except Fault (List (String × Json)) := do
  let name ← h.containerName
  h.entries name (← h.container.value s)

/-- The rounds of a loop, in order, each in a frame of its own. -/
def runRounds (h : Heading) (count : Nat) (body : Run → Outcome) :
    Nat → List (String × Json) → Run → Outcome
  | _, [], r => r.proceed
  | index, (key, value) :: rest, r =>
    let round : Round := ⟨h.key, h.value, key, value, index, count⟩
    match body { r with frames := ⟨r.template, .empty, some round⟩ :: r.frames } with
    | .error stop => .error stop
    | .ok (r, .leave) => r.leaveFrame.proceed
    | .ok (r, _) => runRounds h count body (index + 1) rest r.leaveFrame

/-! ## Blocks and insertions -/

/-- The nodes that the first of some templates has for a block. -/
def blockIn? (name : String) (members : List Member) : Option (List Node) :=
  members.findSome? fun m => (m.template.blocks.find? fun b => b.1 = name).map Prod.snd

/-- The nodes that the template in work, or the nearest of its parents, has for a block. -/
def Run.block? (r : Run) (stage : Stage) (name : String) : Option (List Node) :=
  (stage.library.find? r.template).bind fun m => blockIn? name (stage.library.lineage m)

/-- The nodes of another template, in a frame of their own. -/
def Run.insert (r : Run) (m : Member) (jump : List Node → Run → Outcome) : Outcome :=
  match jump m.template.nodes { r with frames := ⟨m.template.name, .empty, none⟩ :: r.frames } with
  | .error stop => .error stop
  | .ok (r, signal) => .ok (r.leaveFrame, signal)

/-! ## Nodes -/

mutual

/-- Does what a node says.  `jump` does the nodes of blocks and of inserted templates. -/
def runNode (stage : Stage) (jump : List Node → Run → Outcome) : Node → Run → Outcome
  | .text content, r | .verbatim content, r => (r.write content).proceed
  | .comment, r => r.proceed
  | .output value, r =>
    match value.value (r.setting stage) with
    | .error e => r.stop e
    | .ok j => (r.write j.printed).proceed
  | .assign name outside value, r =>
    match value.value (r.setting stage) with
    | .error e => r.stop e
    | .ok j =>
      let scope : Scope := ⟨r.frames, stage.vars⟩
      { r with frames := (scope.assign name outside j).frames }.proceed
  | .choose condition body otherwise, r =>
    match condition.holds (r.setting stage) with
    | .error e => r.stop e
    | .ok true => runNodes stage jump body r
    | .ok false => runNodes stage jump otherwise r
  | .loop heading body whenEmpty, r =>
    match heading.rounds (r.setting stage) with
    | .error e => r.stop e
    | .ok [] => runNodes stage jump whenEmpty r
    | .ok rounds => runRounds heading rounds.length (fun r => runNodes stage jump body r) 0 rounds r
  | .leaveLoop, r => if r.isInRound then .ok (r, .leave) else r.stop .leftNoLoop
  | .nextRound, r => if r.isInRound then .ok (r, .next) else r.stop .nextOfNoLoop
  | .block name body, r =>
    match r.block? stage name with
    | some nodes => jump nodes { r with entered := some name }
    | none => runNodes stage jump body r
  | .insertion names optional, r =>
    match names.findSome? stage.library.find? with
    | some m => r.insert m jump
    | none => if optional then r.proceed else r.stop (.unknownInsertion names)
  | .parent name, r => r.stop (.insertedParent name)

/-- Does nodes in order, up to one that leaves the loop or the round. -/
def runNodes (stage : Stage) (jump : List Node → Run → Outcome) : List Node → Run → Outcome
  | [], r => r.proceed
  | node :: rest, r =>
    match runNode stage jump node r with
    | .ok (r, .proceed) => runNodes stage jump rest r
    | other => other

end

/-- Does nodes that may lead to those of blocks and of inserted templates, but not more than
`depth` deep. -/
def runUpTo (stage : Stage) : Nat → List Node → Run → Outcome
  | 0, _, r => r.stop .nestedTooDeep
  | depth + 1, nodes, r => runNodes stage (runUpTo stage depth) nodes r

/-- How deep templates may be inserted into each other. -/
def maximalDepth : Nat := 1000

/-! ## Whole templates -/

/-- A rendering that failed: the template that was asked for, where the fault is if not in its own
text, and the fault. -/
structure RenderProblem where
  template : String
  place : String
  fault : Fault

/-- The wording of a failure. -/
def RenderProblem.message (p : RenderProblem) : String :=
  "Failed to render '" ++ p.template ++ "'" ++ p.place ++ ": " ++ p.fault.message

/-- Where a fault is, if not in the text of the template itself: in a block that it does not have,
or in its topmost parent outside of blocks. -/
def Member.placeOf (m : Member) (entered : Option String) : String :=
  match entered, m.parents.getLast? with
  | some block, _ =>
    if m.template.blocks.any fun b => b.1 = block then ""
    else " (error happened in a parent template)"
  | none, some parent => " (error happened in '" ++ parent ++ "')."
  | none, none => ""

/-- The text that a template writes.  The nodes are those of its topmost parent, the blocks those
of the template and its nearest parents. -/
def Member.render (m : Member) (stage : Stage) : Except RenderProblem String :=
  let top := ((stage.library.lineage m).getLast?.getD m).template
  let start : Run := ⟨[⟨m.template.name, .empty, none⟩], "", none⟩
  match runUpTo stage maximalDepth top.nodes start with
  | .ok (r, _) => .ok r.written
  | .error stop =>
    .error ⟨m.template.name, m.placeOf stop.entered, stop.fault⟩

end ImageRecipe.Template
