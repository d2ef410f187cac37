import ImageRecipe.Document
import ImageRecipe.Template.Engine
import ImageRecipe.Template.Search
import ImageRecipe.Instruction.Line

/-!
# From documents to Dockerfiles

* `Renderer` : the templates of search directories, and the converter of instructions
* `Renderer.ofDirectories`, `Renderer.render` : loads templates, and renders a document with one
* `renderSource` : renders the text of a document before it is read
-/

namespace ImageRecipe

open Template (Engine)

/-- Templates that can turn instruction objects into lines. -/
structure Renderer (E : Engine := .modelled) where
  templates : E.Templates
  converter : Converter

namespace Renderer

variable {E : Engine}

/-- The function by which templates ask for the line of an instruction object. -/
def lineFunction : String := "docker_instruction"

/-- The argument that holds the object. -/
def lineArgument : String := "instruction"

/-- The line of an instruction object, for templates. -/
def instructionLine (c : Converter) : Template.Function := fun arguments =>
  match arguments.get? lineArgument with
  | none => .error (.noInstruction lineFunction lineArgument)
  | some j =>
    match Value.ofJson j with
    | .error e => .error (.notAValue e)
    | .ok object =>
      match c.convert object with
      | .ok line => .ok (.string line)
      | .error e => .error (.instruction e)

/-- The functions that are registered for the templates that make Dockerfiles. -/
def functions (c : Converter) (name : String) : Option Template.Function :=
  if name = lineFunction then some (instructionLine c) else none

/-- The renderer for texts under names. -/
def ofSources (c : Converter) (sources : List (String × String)) (E : Engine := .modelled) :
    Except Failure (Renderer E) :=
  match E.load sources with
  | .error problem => .error (.template problem)
  | .ok templates => .ok ⟨templates, c⟩

/-- The renderer for the templates of search directories. -/
def ofDirectories (c : Converter) (directories : List (Option Template.Directory))
    (E : Engine := .modelled) : Except Failure (Renderer E) :=
  match Template.sources directories with
  | .error e => .error e
  | .ok sources => ofSources c sources E

/-- The names of the templates in ascending order. -/
def templateNames (r : Renderer E) : List String :=
  (E.names r.templates).mergeSort fun a b => !(b < a)

/-- There is a template of this name. -/
def hasTemplate (r : Renderer E) (name : String) : Bool := (E.names r.templates).contains name

/-- The renderer as messages show it: by the names of its templates. -/
def outline (r : Renderer E) : String :=
  Template.fields "Renderer"
    [("templates", Template.listed "[" (r.templateNames.map Text.quoted) "]")]

/-- The text that a template makes of a document and of variables. -/
def render (r : Renderer E) (template : String) (d : Document) (vars : Mapping Value) :
    Except Failure String :=
  if r.hasTemplate template then
    (E.render r.templates (functions r.converter) (d.context vars) template).mapError
      Failure.ofRendering
  else .error (.template (.unknown template))

end Renderer

/-- What the text of a document sees: each variable by its name, and all of them under one. -/
def sourceContext (vars : Mapping Value) : Mapping Json :=
  (Mapping.ofList (Value.entriesToJson vars.entries)).insert Document.variablesKey
    (Value.mapping vars).toJson

/-- The text of a document, rendered with variables. -/
def renderSource (text : String) (vars : Mapping Value) (E : Engine := .modelled) :
    Except Failure String :=
  (E.renderText (sourceContext vars) text).mapError Failure.ofRendering

end ImageRecipe
