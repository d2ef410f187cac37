import ImageRecipe.Value.Json
import ImageRecipe.Value.Yaml
import ImageRecipe.Yaml.Reader
import ImageRecipe.Instruction.Line

/-!
# Documents

A document is a list of instruction objects and, next to it, the other entries of its root.

* `Document.ofValue`, `Document.ofText` : splits a root, and reads a whole text
* `Document.context` : what templates see of a document and of variables
* `Document.lines` : the lines of the instructions, without a template
* `variablesOfValue`, `variablesOfText` : the variables of a root, and of a whole text
-/

namespace ImageRecipe

/-- Instruction objects, and the entries beside them. -/
structure Document where
  extra : Mapping Value
  instructions : List Value

namespace Document

/-- The key of the root under which the instruction objects stand. -/
def instructionsKey : String := "instructions"

/-- The name under which templates see the variables. -/
def variablesKey : String := "variables"

/-- No instructions and no other entries. -/
def empty : Document := ⟨.empty, []⟩

/-- Adds the entries of a root to a document, up to the first that is wrong. -/
def addEntries (d : Document) : List (String × Value) → Except DocumentError Document
  | [] => .ok d
  | (key, value) :: rest =>
    if key ≠ instructionsKey then addEntries { d with extra := d.extra.insert key value } rest
    else match value with
      | .sequence items => addEntries { d with instructions := items } rest
      | .null => addEntries { d with instructions := [] } rest
      | other => .error (.instructionsNotSequence other.kind)

/-- The document of a root: the list itself, or a mapping that may have it under a key. -/
def ofValue : Value → Except DocumentError Document
  | .null => .ok empty
  | .sequence items => .ok ⟨.empty, items⟩
  | .mapping m => addEntries empty m.entries
  | other => .error (.rootNotCollection other.kind)

/-- The document of a text.  A blank text is a document without instructions. -/
def ofText (s : String) : Except DocumentError Document :=
  if Text.isBlankText s then .ok empty
  else match Yaml.Node.ofText s with
    | .error problem => .error (.invalidYaml problem.message)
    | .ok node => (Value.ofYaml node).bind ofValue

/-- What templates see: the entries of the root, then the instructions, then the variables. -/
def context (d : Document) (vars : Mapping Value) : Mapping Json :=
  let extra := Mapping.ofList (Value.entriesToJson d.extra.entries)
  (extra.insert instructionsKey (.array (Value.itemsToJson d.instructions))).insert
    variablesKey (Value.mapping vars).toJson

/-- One line for each instruction, up to the first that has none. -/
def lines (d : Document) (c : Converter) : Except InstructionError (List String) :=
  c.convertAll d.instructions

/-- The document with null in place of each double of its instructions that is not a number. -/
def finite (d : Document) : Document := { d with instructions := Value.finiteItems d.instructions }

end Document

/-- The mapping of a file of variables; a file that holds nothing has none. -/
def variablesOfValue : Value → Except DocumentError (Mapping Value)
  | .null => .ok .empty
  | .mapping m => .ok m
  | other => .error (.variablesNotMapping other.kind)

/-- The variables of a text.  A blank text has none. -/
def variablesOfText (s : String) : Except DocumentError (Mapping Value) :=
  if Text.isBlankText s then .ok .empty
  else match Yaml.Node.ofText s with
    | .error problem => .error (.invalidVariables problem.message)
    | .ok node => (Value.ofYaml node).bind variablesOfValue

end ImageRecipe
