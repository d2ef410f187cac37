import ImageRecipe.Text.Blank
import ImageRecipe.Template.Piece

/-!
# Templates as trees

The pieces of a text are nested into sections, and blanks are cut away where dashes ask for it.

* `Node` : what a template does, in order
* `Body` : the nodes of a section that is still open
* `Node.ofPieces?` : nests pieces
* `Template`, `Template.ofText` : a named template, with its blocks and its parent
-/

namespace ImageRecipe

/-- What a template does. -/
inductive Template.Node where
  /-- Writes text; dashes of tags beside it have been obeyed. -/
  | text (content : String)
  /-- Writes text that was protected from reading. -/
  | verbatim (content : String)
  /-- Does nothing. -/
  | comment
  /-- Writes a value. -/
  | output (value : Template.Expression)
  /-- Sets a name, inside or outside of the loops around it. -/
  | assign (name : String) (outside : Bool) (value : Template.Expression)
  /-- Does one thing or the other. -/
  | choose (condition : Template.Expression) (body otherwise : List Template.Node)
  /-- Repeats its body, or does something else if there is nothing to go through. -/
  | loop (heading : Template.Heading) (body whenEmpty : List Template.Node)
  /-- Leaves the loop around it. -/
  | leaveLoop
  /-- Goes on with the next round of the loop around it. -/
  | nextRound
  /-- Does what the most derived template says under this name. -/
  | block (name : String) (body : List Template.Node)
  /-- Does what the first known template of these does. -/
  | insertion (names : List String) (optional : Bool)
  /-- The template fills the blocks of another one. -/
  | parent (name : String)

namespace Template

/-! ## Sections that are still open -/

/-- The nodes of a section, the last one first.  Text that comes next loses its front blanks if
`cuts`.  A section that `keeps` its blanks obeys no dashes. -/
structure Body where
  nodes : List Node
  cuts : Bool
  keeps : Bool

namespace Body

/-- A section behind a tag. -/
def start (cuts keeps : Bool) : Body := ⟨[], cuts && !keeps, keeps⟩

/-- Adds text. -/
def addText (b : Body) (content : List Char) : Body :=
  if b.cuts then
    let kept := content.dropWhile Text.isBlank
    let b := { b with cuts := false }
    if kept.isEmpty then b else { b with nodes := .text (String.ofList kept) :: b.nodes }
  else { b with nodes := .text (String.ofList content) :: b.nodes }

/-- Cuts the blanks at the end of the section. -/
def cutEnd (b : Body) : Body :=
  match b.nodes with
  | .text content :: before =>
    let kept := (content.toList.reverse.dropWhile Text.isBlank).reverse
    if kept.isEmpty then { b with nodes := before }
    else { b with nodes := .text (String.ofList kept) :: before }
  | _ => b

/-- Obeys the dash at the front of a tag that follows. -/
def beforeTag (b : Body) (dashes : Dashes) : Body :=
  if dashes.front && !b.keeps then b.cutEnd else b

/-- Adds a node whose last tag has the given dashes. -/
def add (b : Body) (node : Node) (dashes : Dashes) : Body :=
  { b with nodes := node :: b.nodes, cuts := dashes.back && !b.keeps }

/-- The verbatim text, cut as the dashes of its tags ask. -/
def cutVerbatim (b : Body) (opening : Dashes) (content : List Char) (closing : Dashes) :
    List Char :=
  if b.keeps then content
  else
    let content := if opening.back then content.dropWhile Text.isBlank else content
    if closing.front then (content.reverse.dropWhile Text.isBlank).reverse else content

/-- The nodes in order. -/
def done (b : Body) : List Node := b.nodes.reverse

end Body

/-- A section that is open, up to the part that is being read. -/
inductive Section where
  /-- Branches that are done, the last one first, and the condition of the present one. -/
  | branch (done : List (Expression × List Node)) (condition : Expression)
  /-- Branches that are done, and no condition. -/
  | otherwise (done : List (Expression × List Node))
  /-- The body of a loop. -/
  | loop (heading : Heading)
  /-- What a loop does if there is nothing to go through, behind its body; of several such parts the
  last one counts. -/
  | whenEmpty (heading : Heading) (body : Body)
  /-- The body of a block. -/
  | block (name : String)

/-- An open section and what stands around it. -/
structure Open where
  kind : Section
  outer : Body

/-- A loop is open. -/
def insideLoop (stack : List Open) : Bool :=
  stack.any fun o => match o.kind with
    | .loop _ | .whenEmpty _ _ => true
    | .branch _ _ | .otherwise _ | .block _ => false

/-- Branches, the last one first, as a node. -/
def chooseNode : List (Expression × List Node) → List Node → List Node
  | [], otherwise => otherwise
  | (condition, body) :: before, otherwise =>
    chooseNode before [.choose condition body otherwise]

/-! ## Nesting -/

/-- The open sections, innermost first, and the one that is being read. -/
abbrev Nesting := List Open × Body

/-- The nesting after a tag, unless the tag is out of place. -/
def Nesting.step? (dashes : Dashes) : Tag → Nesting → Option Nesting
  | .output value, (stack, body) => some (stack, (body.beforeTag dashes).add (.output value) dashes)
  | .comment, (stack, body) => some (stack, (body.beforeTag dashes).add .comment dashes)
  | .assign name outside value, (stack, body) =>
    some (stack, (body.beforeTag dashes).add (.assign name outside value) dashes)
  | .insertion names optional, (stack, body) =>
    some (stack, (body.beforeTag dashes).add (.insertion names optional) dashes)
  | .parent _, _ => none
  | .leaveLoop, (stack, body) =>
    if insideLoop stack then some (stack, (body.beforeTag dashes).add .leaveLoop dashes) else none
  | .nextRound, (stack, body) =>
    if insideLoop stack then some (stack, (body.beforeTag dashes).add .nextRound dashes) else none
  | .openBlock name, (stack, body) =>
    if insideLoop stack then none
    else some (⟨.block name, body.beforeTag dashes⟩ :: stack, .start dashes.back body.keeps)
  | .closeBlock, (⟨.block name, outer⟩ :: stack, body) =>
    some (stack, outer.add (.block name (body.beforeTag dashes).done) dashes)
  | .openBranch condition, (stack, body) =>
    some (⟨.branch [] condition, body.beforeTag dashes⟩ :: stack, .start dashes.back body.keeps)
  | .nextBranch next, (⟨.branch done condition, outer⟩ :: stack, body) =>
    some (⟨.branch ((condition, (body.beforeTag dashes).done) :: done) next, outer⟩ :: stack,
      .start dashes.back body.keeps)
  | .otherwise, (⟨.branch done condition, outer⟩ :: stack, body) =>
    some (⟨.otherwise ((condition, (body.beforeTag dashes).done) :: done), outer⟩ :: stack,
      .start dashes.back body.keeps)
  | .otherwise, (⟨.loop heading, outer⟩ :: stack, body) =>
    some (⟨.whenEmpty heading body, outer⟩ :: stack, .start false true)
  | .otherwise, (⟨.whenEmpty heading body, outer⟩ :: stack, _) =>
    some (⟨.whenEmpty heading body, outer⟩ :: stack, .start false true)
  | .closeBranch, (⟨.branch done condition, outer⟩ :: stack, body) =>
    match chooseNode ((condition, (body.beforeTag dashes).done) :: done) [] with
    | [node] => some (stack, outer.add node dashes)
    | _ => none
  | .closeBranch, (⟨.otherwise done, outer⟩ :: stack, body) =>
    match chooseNode done (body.beforeTag dashes).done with
    | [node] => some (stack, outer.add node dashes)
    | _ => none
  | .openLoop heading, (stack, body) =>
    some (⟨.loop heading, body.beforeTag dashes⟩ :: stack, .start dashes.back body.keeps)
  | .closeLoop, (⟨.loop heading, outer⟩ :: stack, body) =>
    some (stack, outer.add (.loop heading (body.beforeTag dashes).done []) dashes)
  | .closeLoop, (⟨.whenEmpty heading repeated, outer⟩ :: stack, body) =>
    some (stack, outer.add (.loop heading (repeated.beforeTag dashes).done body.done) dashes)
  | _, _ => none

/-- Nests the pieces that follow. -/
def Nesting.finish? : List Piece → Nesting → Option (List Node)
  | [], ([], body) => some body.done
  | [], (_ :: _, _) => none
  | .text content :: rest, (stack, body) => finish? rest (stack, body.addText content)
  | .verbatim opening content closing :: rest, (stack, body) =>
    let kept := body.cutVerbatim opening content closing
    finish? rest
      (stack, (body.beforeTag opening).add (.verbatim (String.ofList kept)) closing)
  | .tag dashes tag :: rest, nesting =>
    match nesting.step? dashes tag with
    | some nesting => finish? rest nesting
    | none => none

/-- Nests pieces behind the name of a parent. -/
def Node.behindParent? (dashes : Dashes) (name : String) (rest : List Piece) :
    Option (List Node) :=
  Nesting.finish? rest ([], (Body.start false false).add (.parent name) dashes)

/-- Nests the pieces of a whole text.  Comments at its very front have no effect at all, and only
behind them, and behind blanks, a parent may be named. -/
def Node.ofPieces? : List Piece → Option (List Node)
  | .tag _ .comment :: rest => ofPieces? rest
  | .tag dashes (.parent name) :: rest => behindParent? dashes name rest
  | .text content :: .tag dashes (.parent name) :: rest =>
    if content.all Reader.isGap then behindParent? dashes name rest else none
  | pieces => Nesting.finish? pieces ([], .start false false)

/-! ## Blocks -/

mutual

/-- The blocks of nodes that stand outside of branches, with those inside of them. -/
def Node.blocks : Node → List (String × List Node)
  | .block name body => (name, body) :: blocksOf body
  | .text _ | .verbatim _ | .comment | .output _ | .assign _ _ _ | .choose _ _ _ | .loop _ _ _
  | .leaveLoop | .nextRound | .insertion _ _ | .parent _ => []

/-- The blocks of nodes that stand outside of branches, with those inside of them. -/
def blocksOf : List Node → List (String × List Node)
  | [] => []
  | node :: rest => node.blocks ++ blocksOf rest

end

/-- The first name that has been there before. -/
def firstRepeated? : List String → List String → Option String
  | _, [] => none
  | seen, name :: rest => if name ∈ seen then some name else firstRepeated? (name :: seen) rest

/-- Why a text is no template. -/
inductive ReadProblem where
  /-- A tag is malformed or out of place. -/
  | malformed
  /-- A whole number needs more than 64 bits. -/
  | oversized (n : Int)
  /-- Two blocks have one name. -/
  | repeatedBlock (name : String)
  deriving DecidableEq, Repr

/-- The first whole number of a piece that needs more than 64 bits. -/
def Piece.oversized? : Piece → Option Int
  | .tag _ (.output e) | .tag _ (.assign _ _ e) | .tag _ (.openBranch e)
  | .tag _ (.nextBranch e) => e.oversized?
  | .tag _ (.openLoop heading) => heading.container.oversized?
  | _ => none

end Template

/-- A template that can be rendered. -/
structure Template where
  name : String
  /-- The template whose blocks it fills. -/
  parent : Option String
  nodes : List Template.Node
  /-- Its own blocks. -/
  blocks : List (String × List Template.Node)

/-- The name of the parent that nodes tell. -/
def Template.Node.parentName? : List Node → Option String
  | .parent name :: _ => some name
  | _ => none

/-- The template that a text spells. -/
def Template.ofText (name : String) (text : String) : Except Template.ReadProblem Template :=
  match Template.Piece.ofChars? text.toList with
  | none => .error .malformed
  | some pieces =>
    match Template.Node.ofPieces? pieces with
    | none => .error .malformed
    | some nodes =>
      match pieces.findSome? Template.Piece.oversized? with
      | some n => .error (.oversized n)
      | none =>
        let blocks := Template.blocksOf nodes
        match Template.firstRepeated? [] (blocks.map Prod.fst) with
        | some repeated => .error (.repeatedBlock repeated)
        | none => .ok ⟨name, Template.Node.parentName? nodes, nodes, blocks⟩

end ImageRecipe
