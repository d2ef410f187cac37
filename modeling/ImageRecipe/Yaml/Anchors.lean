import ImageRecipe.Yaml.Tree

/-!
# Anchors and aliases

An alias names the node that was anchored last under its name.  Anchored nodes get numbers: a new
name takes the next one, and a name that is used again takes the number of names there are, which
may be that of a later name; of the nodes with one number, aliases mean the last.

* `Anchors` : names and nodes met so far
* `Tree.number` : the tree with numbers in place of names
* `Anchors.target?` : the node for a number
-/

namespace ImageRecipe.Yaml

/-- An anchored node: its number and its place among the anchored nodes. -/
structure Anchored where
  number : Nat
  place : Nat
  tree : Tree Nat

/-- The anchors met so far: the number that each name has now, how many nodes were anchored, and
the nodes that are complete. -/
structure Anchors where
  names : List (String × Nat) := []
  count : Nat := 0
  nodes : List Anchored := []

namespace Anchors

/-- Gives a number to the node that begins here, if it is anchored. -/
def enter (anchors : Anchors) (marks : Marks) : Option (Nat × Nat) × Anchors :=
  match marks.anchor with
  | none => (none, anchors)
  | some name =>
    let number := anchors.names.length
    let names := (anchors.names.filter fun e => e.1 != name) ++ [(name, number)]
    (some (number, anchors.count), { anchors with names, count := anchors.count + 1 })

/-- Keeps the node that ends here, if it is anchored. -/
def leave (anchors : Anchors) (entered : Option (Nat × Nat)) (tree : Tree Nat) : Anchors :=
  match entered with
  | none => anchors
  | some (number, place) => { anchors with nodes := ⟨number, place, tree⟩ :: anchors.nodes }

/-- The number that a name has now. -/
def number? (anchors : Anchors) (name : String) : Option Nat :=
  (anchors.names.find? fun e => e.1 == name).map Prod.snd

/-- The later of two anchored nodes. -/
def later (a : Option Anchored) (b : Anchored) : Option Anchored :=
  match a with
  | none => some b
  | some a => if a.place < b.place then some b else some a

/-- The node that aliases of a number mean. -/
def target? (anchors : Anchors) (number : Nat) : Option (Tree Nat) :=
  ((anchors.nodes.filter fun a => a.number == number).foldl later none).map Anchored.tree

end Anchors

namespace Tree

mutual

/-- The tree with the number of its node in place of each alias's name. -/
def number : Tree String → Anchors → Except Problem (Tree Nat × Anchors)
  | .alias name, anchors =>
    match anchors.number? name with
    | some number => .ok (.alias number, anchors)
    | none => .error .unknownAnchor
  | .scalar marks text plain, anchors =>
    let (entered, anchors) := anchors.enter marks
    let tree := Tree.scalar marks text plain
    .ok (tree, anchors.leave entered tree)
  | .sequence marks items, anchors =>
    let (entered, anchors) := anchors.enter marks
    match numberItems items anchors with
    | .error e => .error e
    | .ok (items, anchors) =>
      let tree := Tree.sequence marks items
      .ok (tree, anchors.leave entered tree)
  | .mapping marks entries, anchors =>
    let (entered, anchors) := anchors.enter marks
    match numberEntries entries anchors with
    | .error e => .error e
    | .ok (entries, anchors) =>
      let tree := Tree.mapping marks entries
      .ok (tree, anchors.leave entered tree)

/-- The items with numbers for names. -/
def numberItems : List (Tree String) → Anchors → Except Problem (List (Tree Nat) × Anchors)
  | [], anchors => .ok ([], anchors)
  | item :: rest, anchors =>
    match number item anchors with
    | .error e => .error e
    | .ok (item, anchors) =>
      (numberItems rest anchors).map fun (rest, anchors) => (item :: rest, anchors)

/-- The entries with numbers for names. -/
def numberEntries : List (Tree String × Tree String) → Anchors →
    Except Problem (List (Tree Nat × Tree Nat) × Anchors)
  | [], anchors => .ok ([], anchors)
  | (key, value) :: rest, anchors =>
    match number key anchors with
    | .error e => .error e
    | .ok (key, anchors) =>
      match number value anchors with
      | .error e => .error e
      | .ok (value, anchors) =>
        (numberEntries rest anchors).map fun (rest, anchors) => ((key, value) :: rest, anchors)

end

mutual

/-- How many starts, ends, scalars and aliases a tree has. -/
def size {ref : Type} : Tree ref → Nat
  | .alias _ | .scalar _ _ _ => 1
  | .sequence _ items => sizeOfItems items + 2
  | .mapping _ entries => sizeOfEntries entries + 2

def sizeOfItems {ref : Type} : List (Tree ref) → Nat
  | [] => 0
  | item :: rest => item.size + sizeOfItems rest

def sizeOfEntries {ref : Type} : List (Tree ref × Tree ref) → Nat
  | [] => 0
  | (key, value) :: rest => key.size + value.size + sizeOfEntries rest

end

end Tree

end ImageRecipe.Yaml
