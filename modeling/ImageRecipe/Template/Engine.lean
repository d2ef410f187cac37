import ImageRecipe.Failure
import ImageRecipe.Template.Library

/-!
# Template engines

The way from a document to a Dockerfile asks an engine to load templates and to render them.  Which
texts are templates, and what they render to, is for the engine to say.

* `Engine` : what is asked of an engine
* `Engine.modelled` : the engine of this library, for templates without macros, imports and filter
  sections, and without the functions that ask for the time, for chance or for the environment
-/

namespace ImageRecipe.Template

/-- What is asked of a template engine. -/
structure Engine where
  /-- Templates that have been loaded. -/
  Templates : Type
  /-- Loads texts under names. -/
  load : List (String × String) → Except TemplateError Templates
  /-- The names of loaded templates, in any order. -/
  names : Templates → List String
  /-- Renders the template of a name, which may call registered functions, in a context. -/
  render : Templates → (String → Option Function) → Mapping Json → String →
    Except RenderError String
  /-- Renders a text on its own in a context. -/
  renderText : Mapping Json → String → Except RenderError String

/-- The functions that every template can use, of those whose result depends on their arguments
alone. -/
def commonFunctions (name : String) : Option Function :=
  if name = "range" then some range
  else if name = "throw" then some throwMessage
  else none

/-- The functions of templates for which others are registered. -/
def withCommon (registered : String → Option Function) (name : String) : Option Function :=
  (registered name).or (commonFunctions name)

/-- The name under which messages tell of a text that is rendered on its own. -/
def sourceName : String := "__tera_one_off"

namespace Library

/-- The text that the template of a name makes. -/
def render (l : Library) (registered : String → Option Function) (context : Mapping Json)
    (name : String) : Except RenderError String :=
  match l.find? name with
  | none => .error ⟨.unknown name, none⟩
  | some m => (m.render ⟨l, withCommon registered, context⟩).mapError .ofProblem

/-- The text that a text makes on its own. -/
def renderText (context : Mapping Json) (text : String) : Except RenderError String :=
  match ofSources [(sourceName, text)] with
  | .error problem => .error ⟨.library problem, none⟩
  | .ok l => l.render (fun _ => none) context sourceName

end Library

/-- The engine of this library. -/
def Engine.modelled : Engine where
  Templates := Library
  load sources := (Library.ofSources sources).mapError .library
  names := Library.names
  render := Library.render
  renderText := Library.renderText

theorem Engine.load_modelled (texts : List (String × String)) :
    Engine.modelled.load texts = (Library.ofSources texts).mapError .library := rfl

theorem Engine.renderText_modelled (context : Mapping Json) (text : String) :
    Engine.modelled.renderText context text = Library.renderText context text := rfl

end ImageRecipe.Template
