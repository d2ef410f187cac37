import ImageRecipe.Text.Quoted
import ImageRecipe.Template.Node

/-!
# Sets of templates

Templates know each other by name.  A template that names a parent fills the blocks of it, and the
parent may have a parent of its own.

* `Library` : named templates, each with its parents
* `Library.ofSources` : reads all texts, then follows the parents
-/

namespace ImageRecipe.Template

/-- Why templates make no library. -/
inductive LibraryProblem where
  /-- The text of a template cannot be read. -/
  | unreadable (name : String) (problem : ReadProblem)
  /-- A template names a parent that is not there. -/
  | noParent (name parent : String)
  /-- A template is its own parent, over those in between. -/
  | circular (name : String) (parents : List String)
  deriving DecidableEq, Repr

namespace LibraryProblem

/-- The wording of each cause. -/
def message : LibraryProblem → String
  | .unreadable name .malformed => "Failed to parse '" ++ name ++ "'"
  | .unreadable name (.oversized n) =>
    "Failed to parse '" ++ name ++ "': Integer out of bounds: `" ++ Decimal.integerText n ++ "`"
  | .unreadable name (.repeatedBlock block) =>
    "Failed to parse '" ++ name ++ "': Block `" ++ block ++ "` is duplicated"
  | .noParent name parent =>
    "Template '" ++ name ++ "' is inheriting from '" ++ parent ++
      "', which doesn't exist or isn't loaded."
  | .circular name parents =>
    "Circular extend detected for template '" ++ name ++ "'. Inheritance chain: `[" ++
      String.intercalate ", " (parents.map Text.quoted) ++ "]`"

end LibraryProblem

/-- A template with the names of its parents, the nearest first. -/
structure Member where
  template : Template
  parents : List String

/-- Templates that know each other. -/
structure Library where
  members : List Member

namespace Library

/-- The template of a name. -/
def find? (l : Library) (name : String) : Option Member :=
  l.members.find? fun m => m.template.name = name

/-- The names of all templates. -/
def names (l : Library) : List String := l.members.map fun m => m.template.name

/-- There is a template of this name. -/
def contains (l : Library) (name : String) : Bool := (l.find? name).isSome

/-- A template, then its parents, the nearest first. -/
def lineage (l : Library) (m : Member) : List Member :=
  m :: m.parents.filterMap l.find?

/-! ## Building -/

/-- The parents of a template, the nearest first, behind those that are known. -/
def parentsOf (templates : List Template) (start : String) :
    Nat → Template → List String → Except LibraryProblem (List String)
  | 0, _, found => .error (.circular start found)
  | bound + 1, template, found =>
    if !found.isEmpty && template.name = start then .error (.circular start found)
    else match template.parent with
      | none => .ok found
      | some parent =>
        match templates.find? fun t => t.name = parent with
        | some next => parentsOf templates start bound next (found ++ [parent])
        | none => .error (.noParent template.name parent)

/-- The templates that texts spell, in order, or the first problem. -/
def readAll : List (String × String) → Except LibraryProblem (List Template)
  | [] => .ok []
  | (name, text) :: rest =>
    match Template.ofText name text with
    | .error problem => .error (.unreadable name problem)
    | .ok template => (readAll rest).map (template :: ·)

/-- The templates with their parents, in order, or the first problem. -/
def withParents (templates : List Template) : List Template → Except LibraryProblem (List Member)
  | [] => .ok []
  | template :: rest =>
    match parentsOf templates template.name (templates.length + 2) template [] with
    | .error problem => .error problem
    | .ok parents => (withParents templates rest).map (⟨template, parents⟩ :: ·)

/-- The library of texts under names. -/
def ofSources (sources : List (String × String)) : Except LibraryProblem Library :=
  match readAll sources with
  | .error problem => .error problem
  | .ok templates => (withParents templates templates).map Library.mk

end Library

end ImageRecipe.Template
