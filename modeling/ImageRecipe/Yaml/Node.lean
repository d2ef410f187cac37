import ImageRecipe.Whole

/-!
# YAML nodes

What a YAML text says, before it is taken as a document: keys may be any node, and a node may
carry a tag.
-/

namespace ImageRecipe.Yaml

/-- A node of a YAML text. -/
inductive Node where
  | null
  | bool (b : Bool)
  | whole (n : Whole)
  | real (x : Float)
  | string (s : String)
  | sequence (items : List Node)
  | mapping (entries : List (Node × Node))
  | tagged (tag : String) (node : Node)

namespace Node

instance : Inhabited Node := ⟨.null⟩

mutual

/-- The node without any tags, those of its parts included. -/
def untag : Node → Node
  | .tagged _ node => node.untag
  | .sequence items => .sequence (untagItems items)
  | .mapping entries => .mapping (untagEntries entries)
  | node => node

/-- The items without tags. -/
def untagItems : List Node → List Node
  | [] => []
  | item :: rest => item.untag :: untagItems rest

/-- The keys and values without tags. -/
def untagEntries : List (Node × Node) → List (Node × Node)
  | [] => []
  | (key, value) :: rest => (key.untag, value.untag) :: untagEntries rest

end

end Node

end ImageRecipe.Yaml
