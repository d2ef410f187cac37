import ImageRecipe.Yaml.Anchors
import ImageRecipe.Yaml.Meaning

/-!
# Reading YAML

The node of a whole text.  Aliases are replaced by what they repeat, as often as the size of the
text allows, no mapping has a key twice, and collections nest at most `maxDepth` deep.

* `Node.same` : when two keys are one
* `nodeOf` : the node of a tree
* `Node.ofText` : the node of a text
-/

namespace ImageRecipe.Yaml

/-- How deep collections may nest. -/
def maxDepth : Nat := 128

/-- How many repetitions there may be for each part of a text. -/
def repetitionFactor : Nat := 100

namespace Node

/-- Doubles that are one key: equal numbers, or both not a number. -/
def sameReal (x y : Float) : Bool :=
  x == y || (Decimal.decode x == .nan && Decimal.decode y == .nan)

mutual

/-- Two nodes are one as keys.  The order of a mapping's entries does not matter. -/
def same : Node → Node → Bool
  | .null, .null => true
  | .bool a, .bool b => a == b
  | .whole m, .whole n => m == n
  | .real x, .real y => sameReal x y
  | .string s, .string t => s == t
  | .sequence xs, .sequence ys => sameItems xs ys
  | .mapping es, .mapping fs => es.length == fs.length && sameEntries es fs
  | .tagged t m, .tagged u n => t == u && same m n
  | _, _ => false

/-- Item by item. -/
def sameItems : List Node → List Node → Bool
  | [], [] => true
  | x :: xs, y :: ys => same x y && sameItems xs ys
  | _, _ => false

/-- Each entry has its equal among the others. -/
def sameEntries : List (Node × Node) → List (Node × Node) → Bool
  | [], _ => true
  | (key, value) :: rest, fs =>
    (fs.any fun f => same key f.1 && same value f.2) && sameEntries rest fs

end

end Node

/-- A computation that counts repetitions. -/
abbrev Counting := StateT Nat (Except Problem)

/-- Wraps a collection in its local tag. -/
def withTag (marks : Marks) (node : Node) : Node :=
  match localTag? marks.tag with
  | some name => .tagged name node
  | none => node

/-- The node of a tree; `depth` is how much deeper collections may nest, `limit` how many
repetitions there may be.  The fuel counts collections and repetitions on the way down. -/
def nodeOf (anchors : Anchors) (limit : Nat) : Nat → Nat → Tree Nat → Counting Node
  | 0, _, _ => throw .tooDeep
  | fuel + 1, depth, tree =>
    match tree with
    | .alias number => do
      let count ← get
      if limit < count + 1 then throw .tooManyRepetitions
      set (count + 1)
      match anchors.target? number with
      | some tree => nodeOf anchors limit fuel depth tree
      | none => throw .unknownAnchor
    | .scalar marks text plain => scalarMeaning marks.tag text plain
    | .sequence marks items =>
      match depth with
      | 0 => throw .tooDeep
      | depth + 1 => do
        let nodes ← items.mapM fun item => nodeOf anchors limit fuel depth item
        return withTag marks (.sequence nodes)
    | .mapping marks entries =>
      match depth with
      | 0 => throw .tooDeep
      | depth + 1 => do
        let nodes ← entries.foldlM (fun (done : List (Node × Node)) entry => do
          let key ← nodeOf anchors limit fuel depth entry.1
          if done.any fun e => e.1.same key then throw Problem.duplicateKey
          let value ← nodeOf anchors limit fuel depth entry.2
          return (key, value) :: done) []
        return withTag marks (.mapping nodes.reverse)

/-- The node of a text, null if the text holds no document. -/
def Node.ofText (s : String) : Except Problem Node := do
  match ← treeOf s with
  | none => return .null
  | some tree =>
    let (tree, anchors) ← tree.number {}
    let limit := tree.size * repetitionFactor
    let (node, _) ← (nodeOf anchors limit (2 * maxDepth + 4) maxDepth tree).run 0
    return node

end ImageRecipe.Yaml
