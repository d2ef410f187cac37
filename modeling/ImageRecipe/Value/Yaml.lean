import ImageRecipe.Value
import ImageRecipe.Yaml.Node
import ImageRecipe.Document.Error

/-!
# Values of YAML nodes

Tags are dropped, keys become texts, and a whole number must fit a signed word.  Keys with one
text are one key: the first decides the place, the last the value.

* `Value.keyOfYaml` : the text of a key
* `Value.ofYaml` : the value of a node
-/

namespace ImageRecipe.Value

mutual

/-- The value of a node, or the first error in the order of the text. -/
def ofYaml : Yaml.Node → Except DocumentError Value
  | .null => .ok .null
  | .bool b => .ok (.bool b)
  | .whole n =>
    match n.toInt64? with
    | some n => .ok (.integer n)
    | none => .error (.numberOutOfRange (Decimal.integerText n.value))
  | .real x => .ok (.float x)
  | .string s => .ok (.string s)
  | .sequence items => (itemsOfYaml items).map .sequence
  | .mapping entries => (entriesOfYaml entries).map fun es => .mapping (.ofList es)
  | .tagged _ node => ofYaml node

/-- The values of the items of a sequence, or the first error. -/
def itemsOfYaml : List Yaml.Node → Except DocumentError (List Value)
  | [] => .ok []
  | item :: rest =>
    match ofYaml item with
    | .error e => .error e
    | .ok v => (itemsOfYaml rest).map (v :: ·)

/-- The entries of a mapping, or the first error; a key comes before its value. -/
def entriesOfYaml : List (Yaml.Node × Yaml.Node) → Except DocumentError (List (String × Value))
  | [] => .ok []
  | (key, value) :: rest =>
    match keyOfYaml key with
    | .error e => .error e
    | .ok k =>
      match ofYaml value with
      | .error e => .error e
      | .ok v => (entriesOfYaml rest).map ((k, v) :: ·)

/-- The text of a key.  A collection is named by its kind if it is itself a value, and as tagged
otherwise. -/
def keyOfYaml : Yaml.Node → Except DocumentError String
  | .string s => .ok s
  | .whole n => .ok (Decimal.integerText n.value)
  | .real x => .ok (Decimal.named.text x)
  | .bool b => .ok (if b then "true" else "false")
  | .tagged _ node => keyOfYaml node
  | .null => .error (.keyNotScalar "null")
  | .sequence items =>
    match itemsOfYaml items with
    | .ok _ => .error (.keyNotScalar "sequence")
    | .error _ => .error (.keyNotScalar "tagged value")
  | .mapping entries =>
    match entriesOfYaml entries with
    | .ok _ => .error (.keyNotScalar "mapping")
    | .error _ => .error (.keyNotScalar "tagged value")

end

end ImageRecipe.Value
