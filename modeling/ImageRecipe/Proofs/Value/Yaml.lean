import ImageRecipe.Value.Yaml
import ImageRecipe.Proofs.Value.RoundTrip

/-!
# One tree in two notations

A tree of JSON can be written in YAML too.  Its value is the same whichever notation it comes from,
and so is the error if it has none.

* `Yaml.Node.ofJson` : the node of a tree
* `Value.ofYaml_ofJson` : one value or one error for both
* `Value.importers_agree` : which of the two it is, and what the error says
-/

namespace ImageRecipe

namespace Yaml.Node

mutual

/-- The same tree as a node. -/
def ofJson : Json → Node
  | .null => .null
  | .bool b => .bool b
  | .whole n => .whole n
  | .real x => .real x.value
  | .string s => .string s
  | .array items => .sequence (itemsOfJson items)
  | .object ⟨entries⟩ => .mapping (entriesOfJson entries)

def itemsOfJson : List Json → List Node
  | [] => []
  | item :: rest => ofJson item :: itemsOfJson rest

def entriesOfJson : List (String × Json) → List (Node × Node)
  | [] => []
  | (key, value) :: rest => (.string key, ofJson value) :: entriesOfJson rest

end

end Yaml.Node

namespace Value

open Yaml (Node)

mutual

/-- What is read of the node is what is read of the tree. -/
theorem ofYaml_ofJson (j : Json) : ofYaml (Node.ofJson j) = ofJson j := by
  cases j with
  | null | bool | whole | real | string => rfl
  | array items => rw [Node.ofJson, ofYaml, ofJson, itemsOfYaml_itemsOfJson]
  | object members =>
      obtain ⟨entries⟩ := members
      rw [Node.ofJson, ofYaml, ofJson, entriesOfYaml_entriesOfJson]

theorem itemsOfYaml_itemsOfJson (items : List Json) :
    itemsOfYaml (Node.itemsOfJson items) = itemsOfJson items := by
  cases items with
  | nil => rfl
  | cons item rest =>
      rw [Node.itemsOfJson, itemsOfYaml, ofYaml_ofJson item, itemsOfYaml_itemsOfJson rest]
      cases hitem : ofJson item with
      | error e => simp only [itemsOfJson, hitem]
      | ok v => simp only [itemsOfJson, hitem]

theorem entriesOfYaml_entriesOfJson (entries : List (String × Json)) :
    entriesOfYaml (Node.entriesOfJson entries) = entriesOfJson entries := by
  cases entries with
  | nil => rfl
  | cons e rest =>
      obtain ⟨key, value⟩ := e
      rw [Node.entriesOfJson, entriesOfYaml, keyOfYaml, ofYaml_ofJson value,
        entriesOfYaml_entriesOfJson rest]
      cases hvalue : ofJson value with
      | error e => simp only [entriesOfJson, hvalue]
      | ok v => simp only [entriesOfJson, hvalue]

end

/-- A tree has one value whichever notation it comes from.  If it has none, both give the error
that names the first of its whole numbers that is too large. -/
theorem importers_agree (j : Json) :
    (j.wholes.find? Whole.isLarge = none ∧
      ∃ v, ofYaml (Node.ofJson j) = .ok v ∧ ofJson j = .ok v) ∨
    ∃ n e, j.wholes.find? Whole.isLarge = some n ∧
      ofYaml (Node.ofJson j) = .error e ∧ ofJson j = .error e ∧
      e.message =
        "number " ++ Decimal.integerText n.value ++ " does not fit a 64-bit integer" := by
  have herror := error?_ofJson j
  rw [ofYaml_ofJson]
  cases hlarge : j.wholes.find? Whole.isLarge with
  | none =>
      rw [hlarge] at herror
      obtain ⟨v, hv⟩ := Results.exists_ok_of_error? herror
      exact .inl ⟨rfl, v, hv, hv⟩
  | some n =>
      rw [hlarge] at herror
      have he := Results.eq_error_of_error? herror
      exact .inr ⟨n, n.refusal, rfl, he, he, rfl⟩

/-- Of two numbers that are too large, the first in the text is named, not the first by its key. -/
example : Results.error? (ofYaml (Node.ofJson (.object ⟨[
    ("b", .array [.null, .whole ⟨18446744073709551615, by decide, by decide⟩]),
    ("a", .whole ⟨9223372036854775808, by decide, by decide⟩)]⟩))) =
      some (.numberOutOfRange "18446744073709551615") := by decide +kernel

end Value

end ImageRecipe
