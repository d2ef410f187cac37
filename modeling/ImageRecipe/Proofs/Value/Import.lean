import ImageRecipe.Proofs.Mapping.History
import ImageRecipe.Proofs.Value.RoundTrip
import ImageRecipe.Value.Yaml

/-!
# What is read of a node

The value of a node does not depend on tags.  It is missing for two reasons only, a number that is
too large and a key that is null or a collection, and the first of them in the text is reported.
If there is a value, each of its mappings comes from one in the node, whose keys may be different
nodes with one text.

* `Yaml.Node.tags`, `Yaml.Node.bare` : the tags of a node, and what is under the outermost
* `Yaml.Node.keyText?`, `Yaml.Node.named` : keys by their texts
* `Yaml.Node.parts`, `Yaml.Part.refusal?` : what is looked at, in which order, and why it is refused
* `Hop`, `Yaml.Node.at?`, `Value.at?` : the same place in a node and in its value
* `Value.ofYaml_untag`, `Value.error?_ofYaml`, `Value.at?_ofYaml` : tags, errors, values
* `Value.ofYaml_characterized` : all of it together
-/

namespace ImageRecipe

/-- A step from a collection to one of its members. -/
inductive Hop where
  /-- To the item of a sequence at a place. -/
  | item (i : Nat)
  /-- To the value that a mapping has under a key. -/
  | entry (key : String)

namespace Yaml

namespace Node

mutual

/-- The tags in a node, those of keys included. -/
def tags : Node → List String
  | .tagged tag node => tag :: node.tags
  | .sequence items => tagsOfItems items
  | .mapping entries => tagsOfEntries entries
  | _ => []

def tagsOfItems : List Node → List String
  | [] => []
  | item :: rest => item.tags ++ tagsOfItems rest

def tagsOfEntries : List (Node × Node) → List String
  | [] => []
  | (key, value) :: rest => key.tags ++ value.tags ++ tagsOfEntries rest

end

/-- What is under the outermost tags. -/
def bare : Node → Node
  | .tagged _ node => node.bare
  | node => node

/-- The text by which a key is known: a string as it is, numbers and truth values as they are
written. -/
def keyText? (node : Node) : Option String :=
  match node.bare with
  | .string s => some s
  | .whole n => some (Decimal.integerText n.value)
  | .real x => some (Decimal.named.text x)
  | .bool true => some "true"
  | .bool false => some "false"
  | _ => none

/-- The word for a node that cannot be a key: null, a sequence or a mapping, under its tags. -/
def unfitWord? (node : Node) : Option String :=
  match node.bare with
  | .null => some "null"
  | .sequence _ => some "sequence"
  | .mapping _ => some "mapping"
  | _ => none

/-- The values of entries with the texts of their keys. -/
def named (entries : List (Node × Node)) : List (String × Node) :=
  entries.filterMap fun e => e.1.keyText?.map (·, e.2)

/-- The member to which a step leads.  Of several entries with one text it is the last. -/
def child? (node : Node) (hop : Hop) : Option Node :=
  match node.bare, hop with
  | .sequence items, .item i => items[i]?
  | .mapping entries, .entry key => Mapping.lastValue? (named entries) key
  | _, _ => none

/-- The node to which steps lead. -/
def at? : Node → List Hop → Option Node
  | node, [] => some node
  | node, hop :: rest => (node.child? hop).bind (·.at? rest)

end Node

/-- What may stop a node from having a value. -/
inductive Part where
  /-- A whole number that is a value. -/
  | whole (n : Whole)
  /-- A node that is a key. -/
  | key (node : Node)

namespace Node

mutual

/-- The parts of a node in the order of the text, a key before its value. -/
def parts : Node → List Part
  | .whole n => [.whole n]
  | .sequence items => partsOfItems items
  | .mapping entries => partsOfEntries entries
  | .tagged _ node => node.parts
  | _ => []

def partsOfItems : List Node → List Part
  | [] => []
  | item :: rest => item.parts ++ partsOfItems rest

def partsOfEntries : List (Node × Node) → List Part
  | [] => []
  | (key, value) :: rest => .key key :: value.parts ++ partsOfEntries rest

end

end Node

namespace Part

/-- The part has no place in a value. -/
def offends : Part → Bool
  | .whole n => n.isLarge
  | .key node => node.unfitWord?.isSome

/-- The error for a part that has no place in a value.  A key is called by its kind unless it would
not even be a value. -/
def refusal? : Part → Option DocumentError
  | .whole n => if n.isLarge then some n.refusal else none
  | .key node => node.unfitWord?.map fun word =>
    .keyNotScalar (if node.parts.any offends then "tagged value" else word)

theorem isSome_refusal? (part : Part) : part.refusal?.isSome = part.offends := by
  cases part with
  | whole n =>
      rw [refusal?, offends]
      cases n.isLarge <;> rfl
  | key node => rw [refusal?, offends, Option.isSome_map]

theorem any_offends (parts : List Part) :
    parts.any offends = (parts.findSome? refusal?).isSome := by
  induction parts with
  | nil => rfl
  | cons part rest ih =>
      rw [List.any_cons, ← isSome_refusal?, List.findSome?_cons, ih]
      cases part.refusal? <;> rfl

/-- There is nothing to refuse if no number is too large and every key can be one. -/
theorem findSome?_refusal?_eq_none_iff {parts : List Part} :
    parts.findSome? refusal? = none ↔
      (∀ n, whole n ∈ parts → n.value ≤ 9223372036854775807) ∧
      ∀ node, key node ∈ parts → node.unfitWord? = none := by
  rw [List.findSome?_eq_none_iff]
  constructor
  · intro h
    refine ⟨fun n hn => ?_, fun node hnode => ?_⟩
    · have hfine := h _ hn
      rw [← Option.isNone_iff_eq_none, ← Option.not_isSome, isSome_refusal?, offends] at hfine
      have hsmall : ¬9223372036854775807 < n.value := by
        rw [← Whole.isLarge_iff]
        simpa using hfine
      omega
    · simpa [refusal?] using h _ hnode
  · rintro ⟨hwholes, hkeys⟩ part hpart
    cases part with
    | whole n =>
        have hsmall : ¬n.isLarge = true := by
          have := hwholes n hpart
          rw [Whole.isLarge_iff]
          omega
        rw [refusal?, if_neg hsmall]
    | key node => rw [refusal?, hkeys node hpart, Option.map_none]

end Part

end Yaml

namespace Value

open Yaml (Node Part)
open Yaml.Node
open Results

/-- The member to which a step leads. -/
def child? (v : Value) (hop : Hop) : Option Value :=
  match v, hop with
  | .sequence items, .item i => items[i]?
  | .mapping m, .entry key => m.get? key
  | _, _ => none

/-- The value to which steps lead. -/
def at? : Value → List Hop → Option Value
  | v, [] => some v
  | v, hop :: rest => (v.child? hop).bind (·.at? rest)

/-! ## Tags -/

mutual

theorem tags_untag (y : Node) : y.untag.tags = [] := by
  cases y with
  | null | bool | whole | real | string => rfl
  | sequence items => exact tagsOfItems_untagItems items
  | mapping entries => exact tagsOfEntries_untagEntries entries
  | tagged tag node => exact tags_untag node

theorem tagsOfItems_untagItems (items : List Node) : tagsOfItems (untagItems items) = [] := by
  cases items with
  | nil => rfl
  | cons item rest =>
      rw [untagItems, tagsOfItems, tags_untag item, tagsOfItems_untagItems rest, List.append_nil]

theorem tagsOfEntries_untagEntries (entries : List (Node × Node)) :
    tagsOfEntries (untagEntries entries) = [] := by
  cases entries with
  | nil => rfl
  | cons e rest =>
      obtain ⟨key, value⟩ := e
      rw [untagEntries, tagsOfEntries, tags_untag key, tags_untag value,
        tagsOfEntries_untagEntries rest, List.append_nil, List.append_nil]

end

mutual

/-- Without its tags a node has the same value, or the same error. -/
theorem ofYaml_untag (y : Node) : ofYaml y.untag = ofYaml y := by
  cases y with
  | null | bool | whole | real | string => rfl
  | sequence items => rw [untag, ofYaml, ofYaml, itemsOfYaml_untagItems items]
  | mapping entries => rw [untag, ofYaml, ofYaml, entriesOfYaml_untagEntries entries]
  | tagged tag node => rw [untag, ofYaml, ofYaml_untag node]

theorem itemsOfYaml_untagItems (items : List Node) :
    itemsOfYaml (untagItems items) = itemsOfYaml items := by
  cases items with
  | nil => rfl
  | cons item rest =>
      rw [untagItems, itemsOfYaml, itemsOfYaml, ofYaml_untag item, itemsOfYaml_untagItems rest]

theorem entriesOfYaml_untagEntries (entries : List (Node × Node)) :
    entriesOfYaml (untagEntries entries) = entriesOfYaml entries := by
  cases entries with
  | nil => rfl
  | cons e rest =>
      obtain ⟨key, value⟩ := e
      rw [untagEntries, entriesOfYaml, entriesOfYaml, keyOfYaml_untag key, ofYaml_untag value,
        entriesOfYaml_untagEntries rest]

/-- So it is with a key, and with what is said of a collection that is one. -/
theorem keyOfYaml_untag (key : Node) : keyOfYaml key.untag = keyOfYaml key := by
  cases key with
  | null | bool | whole | real | string => rfl
  | sequence items => rw [untag, keyOfYaml, keyOfYaml, itemsOfYaml_untagItems items]
  | mapping entries => rw [untag, keyOfYaml, keyOfYaml, entriesOfYaml_untagEntries entries]
  | tagged tag node => rw [untag, keyOfYaml, keyOfYaml_untag node]

end

/-! ## Errors -/

theorem error?_ofYaml_whole (n : Whole) : error? (ofYaml (.whole n)) = (Part.whole n).refusal? := by
  have hfind := error?_ofJson_whole n
  have hsame : ofYaml (.whole n) = ofJson (.whole n) := rfl
  rw [hsame, hfind, Part.refusal?]
  cases hlarge : n.isLarge with
  | true =>
      rw [List.find?_cons_of_pos hlarge]
      rfl
  | false =>
      rw [List.find?_cons_of_neg (by simp [hlarge])]
      rfl

mutual

/-- A node is refused for the first of its parts that has no place in a value. -/
theorem error?_ofYaml (y : Node) :
    error? (ofYaml y) = y.parts.findSome? Part.refusal? := by
  cases y with
  | null | bool | real | string => rfl
  | whole n =>
      rw [error?_ofYaml_whole, parts, List.findSome?_singleton]
  | sequence items => rw [ofYaml, error?_map, parts, error?_itemsOfYaml items]
  | mapping entries => rw [ofYaml, error?_map, parts, error?_entriesOfYaml entries]
  | tagged tag node => rw [ofYaml, parts, error?_ofYaml node]

theorem error?_itemsOfYaml (items : List Node) :
    error? (itemsOfYaml items) = (partsOfItems items).findSome? Part.refusal? := by
  cases items with
  | nil => rfl
  | cons item rest =>
      rw [partsOfItems, List.findSome?_append, ← error?_ofYaml item, ← error?_itemsOfYaml rest,
        itemsOfYaml]
      cases ofYaml item with
      | error e => rfl
      | ok v => exact error?_map _ _

theorem error?_entriesOfYaml (entries : List (Node × Node)) :
    error? (entriesOfYaml entries) = (partsOfEntries entries).findSome? Part.refusal? := by
  cases entries with
  | nil => rfl
  | cons e rest =>
      obtain ⟨key, value⟩ := e
      rw [partsOfEntries, List.cons_append, List.findSome?_cons, List.findSome?_append,
        ← error?_keyOfYaml key, ← error?_ofYaml value, ← error?_entriesOfYaml rest, entriesOfYaml]
      cases keyOfYaml key with
      | error e => rfl
      | ok k =>
          cases ofYaml value with
          | error e => rfl
          | ok v => exact error?_map _ _

/-- A key that is a collection is read as a value, to find out what to call it. -/
theorem error?_keyOfYaml (key : Node) : error? (keyOfYaml key) = (Part.key key).refusal? := by
  cases key with
  | null | bool | whole | real | string => rfl
  | sequence items =>
      have hoffends := Part.any_offends (partsOfItems items)
      rw [← error?_itemsOfYaml items] at hoffends
      rw [keyOfYaml, Part.refusal?, parts, hoffends]
      cases itemsOfYaml items <;> rfl
  | mapping entries =>
      have hoffends := Part.any_offends (partsOfEntries entries)
      rw [← error?_entriesOfYaml entries] at hoffends
      rw [keyOfYaml, Part.refusal?, parts, hoffends]
      cases entriesOfYaml entries <;> rfl
  | tagged tag node =>
      rw [keyOfYaml, error?_keyOfYaml node]
      rfl

end

/-! ## Values -/

/-- A key that is read has the text by which it is known. -/
theorem toOption_keyOfYaml (key : Node) : (keyOfYaml key).toOption = key.keyText? := by
  cases key with
  | null | string | whole | real => rfl
  | bool b => cases b <;> rfl
  | sequence items =>
      rw [keyOfYaml]
      cases itemsOfYaml items <;> rfl
  | mapping entries =>
      rw [keyOfYaml]
      cases entriesOfYaml entries <;> rfl
  | tagged tag node =>
      rw [keyOfYaml, toOption_keyOfYaml node]
      rfl

/-- The items that were read are the values of the items. -/
theorem map_of_itemsOfYaml {items : List Node} {values : List Value}
    (h : itemsOfYaml items = .ok values) : items.map ofYaml = values.map .ok := by
  induction items generalizing values with
  | nil =>
      cases h
      rfl
  | cons item rest ih =>
      obtain ⟨v, others, hitem, hrest, rfl⟩ := itemsOfYaml_cons h
      rw [List.map_cons, List.map_cons, hitem, ih hrest]

/-- The pairs that were read are the texts of the keys and the values of the values. -/
theorem map_of_entriesOfYaml {entries : List (Node × Node)} {pairs : List (String × Value)}
    (h : entriesOfYaml entries = .ok pairs) :
    entries.map (fun e => (e.1.keyText?, ofYaml e.2)) = pairs.map fun e => (some e.1, .ok e.2) := by
  induction entries generalizing pairs with
  | nil =>
      cases h
      rfl
  | cons e rest ih =>
      obtain ⟨key, value⟩ := e
      obtain ⟨text, v, others, hkey, hvalue, hrest, rfl⟩ := entriesOfYaml_cons h
      rw [List.map_cons, List.map_cons, ← toOption_keyOfYaml, hkey, hvalue, ih hrest]
      rfl

/-- Entries by the texts of their keys are the pairs that were read. -/
theorem named_of_entriesOfYaml {entries : List (Node × Node)} {pairs : List (String × Value)}
    (h : entriesOfYaml entries = .ok pairs) :
    (named entries).map (fun e => (e.1, ofYaml e.2)) = pairs.map fun e => (e.1, .ok e.2) := by
  have hmap := congrArg (List.filterMap fun e => e.1.map (·, e.2)) (map_of_entriesOfYaml h)
  rw [List.filterMap_map, List.filterMap_map] at hmap
  rw [named, List.map_filterMap, ← List.filterMap_eq_map]
  simpa [Function.comp_def, Option.map_map] using hmap

theorem child?_ofYaml (y : Node) {v : Value} (h : ofYaml y = .ok v) (hop : Hop) :
    (y.child? hop).map ofYaml = (v.child? hop).map .ok := by
  cases y with
  | null | bool | real | string =>
      cases h
      rfl
  | whole n =>
      obtain ⟨k, rfl⟩ := integer_of_ofYaml_whole h
      rfl
  | sequence items =>
      obtain ⟨values, hitems, rfl⟩ := of_map h
      cases hop with
      | entry key => rfl
      | item i =>
          have hplace := congrArg (·[i]?) (map_of_itemsOfYaml hitems)
          rw [List.getElem?_map, List.getElem?_map] at hplace
          exact hplace
  | mapping entries =>
      obtain ⟨pairs, hentries, rfl⟩ := of_map h
      cases hop with
      | item i => rfl
      | entry key =>
          have hlast := congrArg (Mapping.lastValue? · key) (named_of_entriesOfYaml hentries)
          rw [Mapping.lastValue?_map, Mapping.lastValue?_map] at hlast
          rw [← Mapping.get?_ofList pairs] at hlast
          exact hlast
  | tagged tag node => exact child?_ofYaml node h hop

/-- Wherever steps lead in a value, they lead to the node that it is the value of. -/
theorem at?_ofYaml {y : Node} {v : Value} (h : ofYaml y = .ok v) (path : List Hop) :
    (y.at? path).map ofYaml = (v.at? path).map .ok := by
  induction path generalizing y v with
  | nil => exact congrArg some h
  | cons hop rest ih =>
      have hstep := child?_ofYaml y h hop
      rw [Node.at?, at?]
      cases hnode : y.child? hop with
      | none =>
          rw [hnode, Option.map_none] at hstep
          rw [Option.map_eq_none_iff.mp hstep.symm]
          rfl
      | some node =>
          rw [hnode, Option.map_some] at hstep
          obtain ⟨part, hpart, hvalue⟩ := Option.map_eq_some_iff.mp hstep.symm
          rw [hpart]
          exact ih hvalue.symm

end Value

/-- What a mapping has from the entries of a node. -/
structure Mapping.Gathers (m : Mapping Value) (entries : List (Yaml.Node × Yaml.Node)) : Prop where
  /-- Every key has a text. -/
  texts : ∀ e ∈ entries, e.1.keyText?.isSome = true
  /-- No text is there twice. -/
  distinct : m.keys.Nodup
  /-- The texts stand in the order in which they first occur. -/
  keys : m.keys = ((Yaml.Node.named entries).map Prod.fst).eraseDups
  /-- A text has the value of the last node that is given under it. -/
  values : ∀ key,
    (Mapping.lastValue? (Yaml.Node.named entries) key).map Value.ofYaml = (m.get? key).map .ok

namespace Value

open Yaml (Node Part)
open Yaml.Node
open Results

theorem gathers_ofList {entries : List (Node × Node)} {pairs : List (String × Value)}
    (h : entriesOfYaml entries = .ok pairs) : (Mapping.ofList pairs).Gathers entries := by
  have hnamed := named_of_entriesOfYaml h
  refine ⟨fun e he => ?_, Mapping.distinct_ofList pairs, ?_, fun key => ?_⟩
  · have hmem : (e.1.keyText?, ofYaml e.2) ∈ pairs.map fun e => (some e.1, .ok e.2) := by
      rw [← map_of_entriesOfYaml h]
      exact List.mem_map_of_mem he
    obtain ⟨pair, -, hpair⟩ := List.mem_map.mp hmem
    have htext : some pair.1 = e.1.keyText? := congrArg Prod.fst hpair
    rw [← htext]
    rfl
  · have hkeys := congrArg (List.map Prod.fst) hnamed
    rw [List.map_map, List.map_map] at hkeys
    rw [Mapping.keys_ofList]
    exact congrArg List.eraseDups hkeys.symm
  · rw [Mapping.get?_ofList, ← Mapping.lastValue?_map, ← Mapping.lastValue?_map, hnamed]

/-- A mapping that was read comes from a mapping in the node. -/
theorem gathers_of_ofYaml (y : Node) {m : Mapping Value} (h : ofYaml y = .ok (.mapping m)) :
    ∃ entries, y.bare = .mapping entries ∧ m.Gathers entries := by
  cases y with
  | null | bool | real | string => cases h
  | whole n =>
      obtain ⟨k, hk⟩ := integer_of_ofYaml_whole h
      cases hk
  | sequence items =>
      obtain ⟨values, -, hvalues⟩ := of_map h
      cases hvalues
  | mapping entries =>
      obtain ⟨pairs, hentries, hpairs⟩ := of_map h
      cases hpairs
      exact ⟨entries, rfl, gathers_ofList hentries⟩
  | tagged tag node => exact gathers_of_ofYaml node h

/-- What is read of a node: tags do not matter; there is a value unless a number is too large or a
key is null or a collection; of such parts the first is reported; and each mapping in the value has
the keys and values of a mapping in the node. -/
theorem ofYaml_characterized (y : Node) :
    (y.untag.tags = [] ∧ ofYaml y.untag = ofYaml y) ∧
    ((∃ v, ofYaml y = .ok v) ↔
      (∀ n, .whole n ∈ y.parts → n.value ≤ 9223372036854775807) ∧
      ∀ key, .key key ∈ y.parts → key.unfitWord? = none) ∧
    (∀ e, ofYaml y = .error e ↔ y.parts.findSome? Part.refusal? = some e) ∧
    ∀ v, ofYaml y = .ok v → ∀ path m, v.at? path = some (.mapping m) →
      ∃ node entries, y.at? path = some node ∧ node.bare = .mapping entries ∧
        m.Gathers entries := by
  have herror := error?_ofYaml y
  refine ⟨⟨tags_untag y, ofYaml_untag y⟩, ?_, fun e => ?_, fun v hv path m hm => ?_⟩
  · rw [← Part.findSome?_refusal?_eq_none_iff, ← herror]
    constructor
    · rintro ⟨v, hv⟩
      rw [hv]
      rfl
    · exact exists_ok_of_error?
  · rw [← herror, error?_eq_some_iff]
  · have hpath := at?_ofYaml hv path
    rw [hm, Option.map_some] at hpath
    obtain ⟨node, hnode, hvalue⟩ := Option.map_eq_some_iff.mp hpath
    obtain ⟨entries, hbare, hgathers⟩ := gathers_of_ofYaml node hvalue
    exact ⟨node, entries, hnode, hbare, hgathers⟩

/-- Under one key a mapping whose keys are different nodes, two of them with one text. -/
def answers : Node :=
  .mapping [(.string "answers", .tagged "!map" (.mapping
    [(.bool true, .null), (.string "b", .string "x"),
      (.tagged "!str" (.string "true"), .bool false)]))]

/-- The text that two keys have in common stands first and has the last value. -/
theorem ofYaml_characterized_answers :
    ofYaml answers =
      .ok (.mapping ⟨[("answers", .mapping ⟨[("true", .bool false), ("b", .string "x")]⟩)]⟩) ∧
    (Value.mapping ⟨[("answers", .mapping ⟨[("true", .bool false), ("b", .string "x")]⟩)]⟩).at?
      [.entry "answers"] = some (.mapping ⟨[("true", .bool false), ("b", .string "x")]⟩) ∧
    ∃ node entries, answers.at? [.entry "answers"] = some node ∧ node.bare = .mapping entries ∧
      Mapping.Gathers ⟨[("true", .bool false), ("b", .string "x")]⟩ entries := by
  have hread : ofYaml answers =
      .ok (.mapping ⟨[("answers", .mapping ⟨[("true", .bool false), ("b", .string "x")]⟩)]⟩) := rfl
  refine ⟨hread, rfl, ?_⟩
  exact (ofYaml_characterized answers).2.2.2 _ hread [.entry "answers"] _ rfl

end Value

end ImageRecipe
