import ImageRecipe.Proofs.Template.Library
import ImageRecipe.Template.Engine

/-!
# What is asked of engines

An engine is free in what it takes for a template, but not in what it does with the texts that it
has loaded: they are there under their names, and under no others.

* `Engine.Keeps` : the engine keeps the texts that it loads
* `Engine.keeps_modelled` : the engine of this library does
-/

namespace ImageRecipe.Template

/-- The engine keeps the texts that it loads under names that differ.  What it means for loaded
templates to hold a text under a name differs from engine to engine. -/
structure Engine.Keeps (E : Engine) (Holds : E.Templates → String → String → Prop) : Prop where
  /-- Loaded templates have the names of the texts, in whatever order. -/
  names : ∀ {texts templates}, (texts.map Prod.fst).Nodup → E.load texts = .ok templates →
    (E.names templates).Perm (texts.map Prod.fst)
  /-- Each text is held under its name. -/
  holds : ∀ {texts templates name text}, (texts.map Prod.fst).Nodup →
    E.load texts = .ok templates → (name, text) ∈ texts → Holds templates name text

/-- The template of a name is what a text spells. -/
def Library.Holds (l : Library) (name text : String) : Prop :=
  ∃ m, l.find? name = some m ∧ Template.ofText name text = .ok m.template

theorem Engine.keeps_modelled : Engine.modelled.Keeps Library.Holds where
  names _ hload := by
    have hlibrary := Results.ok_of_mapError hload
    exact List.Perm.of_eq (Library.names_ofSources hlibrary)
  holds hnames hload hmem :=
    Library.exists_find?_ofSources (Results.ok_of_mapError hload) hnames hmem

end ImageRecipe.Template
