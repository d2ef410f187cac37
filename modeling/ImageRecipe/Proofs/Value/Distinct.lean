import ImageRecipe.Document
import ImageRecipe.Proofs.Mapping
import ImageRecipe.Proofs.Results

/-!
# Distinct keys

A mapping has no key twice, because entries come into it by insertion only.  The type does not say
so: values nest through mappings, and an inductive type cannot nest through a condition on itself.
So it is a predicate, and whatever is read satisfies it.

* `Value.Distinct`, `Document.Distinct` : no mapping, at any depth, has a key twice
* `Value.distinct_of_ofYaml`, `Value.distinct_of_ofJson`, `Document.distinct_of_ofText` : so it is
  for all that is read
-/

namespace ImageRecipe

namespace Value

mutual

/-- No mapping in a value has a key twice. -/
def Distinct : Value → Prop
  | .sequence items => DistinctItems items
  | .mapping ⟨entries⟩ => (entries.map Prod.fst).Nodup ∧ DistinctEntries entries
  | _ => True

/-- So it is in each item. -/
def DistinctItems : List Value → Prop
  | [] => True
  | item :: rest => item.Distinct ∧ DistinctItems rest

/-- So it is in the value of each entry. -/
def DistinctEntries : List (String × Value) → Prop
  | [] => True
  | (_, value) :: rest => value.Distinct ∧ DistinctEntries rest

end

theorem distinctEntries_iff {entries : List (String × Value)} :
    DistinctEntries entries ↔ ∀ e ∈ entries, e.2.Distinct := by
  induction entries with
  | nil => simp [DistinctEntries]
  | cons e rest ih => simp [DistinctEntries, ih]

/-- A mapping made by insertion is distinct if the inserted values are. -/
theorem distinct_mapping_ofList {pairs : List (String × Value)} (h : DistinctEntries pairs) :
    (Value.mapping (.ofList pairs)).Distinct := by
  unfold Distinct
  exact ⟨Mapping.distinct_ofList pairs,
    distinctEntries_iff.2 (Mapping.forall_mem_ofList (distinctEntries_iff.1 h))⟩

theorem distinct_entries {m : Mapping Value} (h : (Value.mapping m).Distinct) :
    DistinctEntries m.entries := by
  unfold Distinct at h
  exact h.2

theorem distinct_mapping_iff {m : Mapping Value} :
    (Value.mapping m).Distinct ↔ m.Distinct ∧ ∀ e ∈ m.entries, e.2.Distinct := by
  rw [Distinct, distinctEntries_iff]
  rfl

/-! ## Values of YAML nodes -/

theorem integer_of_ofYaml_whole {n : Whole} {v : Value} (h : ofYaml (.whole n) = .ok v) :
    ∃ k, v = .integer k := by
  rw [ofYaml] at h
  cases hn : n.toInt64? with
  | none => simp [hn] at h
  | some k =>
      simp only [hn, Except.ok.injEq] at h
      exact ⟨k, h.symm⟩

/-- A sequence with values has one for its first item and others for the rest. -/
theorem itemsOfYaml_cons {item : Yaml.Node} {rest : List Yaml.Node} {values : List Value}
    (h : itemsOfYaml (item :: rest) = .ok values) :
    ∃ v others, ofYaml item = .ok v ∧ itemsOfYaml rest = .ok others ∧ values = v :: others := by
  rw [itemsOfYaml] at h
  cases hitem : ofYaml item with
  | error e =>
      rw [hitem] at h
      cases h
  | ok v =>
      rw [hitem] at h
      obtain ⟨others, hrest, rfl⟩ := Results.of_map h
      exact ⟨v, others, rfl, hrest, rfl⟩

/-- So it is with entries, whose keys have texts. -/
theorem entriesOfYaml_cons {key value : Yaml.Node} {rest : List (Yaml.Node × Yaml.Node)}
    {pairs : List (String × Value)} (h : entriesOfYaml ((key, value) :: rest) = .ok pairs) :
    ∃ text v others, keyOfYaml key = .ok text ∧ ofYaml value = .ok v ∧
      entriesOfYaml rest = .ok others ∧ pairs = (text, v) :: others := by
  rw [entriesOfYaml] at h
  cases hkey : keyOfYaml key with
  | error e => simp [hkey] at h
  | ok text =>
      rw [hkey] at h
      cases hvalue : ofYaml value with
      | error e => simp [hvalue] at h
      | ok v =>
          simp only [hvalue] at h
          obtain ⟨others, hrest, rfl⟩ := Results.of_map h
          exact ⟨text, v, others, rfl, rfl, hrest, rfl⟩

mutual

theorem distinct_of_ofYaml {node : Yaml.Node} {v : Value} (h : ofYaml node = .ok v) :
    v.Distinct := by
  cases node with
  | null | bool | real | string =>
      cases h
      trivial
  | whole n =>
      obtain ⟨k, rfl⟩ := integer_of_ofYaml_whole h
      trivial
  | sequence items =>
      rw [ofYaml] at h
      obtain ⟨values, hitems, rfl⟩ := Results.of_map h
      exact distinctItems_of_itemsOfYaml hitems
  | mapping entries =>
      rw [ofYaml] at h
      obtain ⟨pairs, hentries, rfl⟩ := Results.of_map h
      exact distinct_mapping_ofList (distinctEntries_of_entriesOfYaml hentries)
  | tagged name inner =>
      -- the tag is dropped, and the node inside has the value
      rw [ofYaml] at h
      exact distinct_of_ofYaml h

theorem distinctItems_of_itemsOfYaml {items : List Yaml.Node} {values : List Value}
    (h : itemsOfYaml items = .ok values) : DistinctItems values := by
  cases items with
  | nil =>
      cases h
      trivial
  | cons item rest =>
      obtain ⟨v, others, hitem, hrest, rfl⟩ := itemsOfYaml_cons h
      exact ⟨distinct_of_ofYaml hitem, distinctItems_of_itemsOfYaml hrest⟩

theorem distinctEntries_of_entriesOfYaml {entries : List (Yaml.Node × Yaml.Node)}
    {pairs : List (String × Value)} (h : entriesOfYaml entries = .ok pairs) :
    DistinctEntries pairs := by
  cases entries with
  | nil =>
      cases h
      trivial
  | cons entry rest =>
      obtain ⟨key, value⟩ := entry
      obtain ⟨text, v, others, -, hvalue, hrest, rfl⟩ := entriesOfYaml_cons h
      exact ⟨distinct_of_ofYaml hvalue, distinctEntries_of_entriesOfYaml hrest⟩

end

/-! ## Values of JSON trees -/

/-- An array with values has one for its first item and others for the rest. -/
theorem itemsOfJson_cons {item : Json} {rest : List Json} {values : List Value}
    (h : itemsOfJson (item :: rest) = .ok values) :
    ∃ v others, ofJson item = .ok v ∧ itemsOfJson rest = .ok others ∧ values = v :: others := by
  rw [itemsOfJson] at h
  cases hitem : ofJson item with
  | error e =>
      rw [hitem] at h
      cases h
  | ok v =>
      rw [hitem] at h
      obtain ⟨others, hrest, rfl⟩ := Results.of_map h
      exact ⟨v, others, rfl, hrest, rfl⟩

/-- So it is with the values of members, whose keys stay. -/
theorem entriesOfJson_cons {key : String} {value : Json} {rest : List (String × Json)}
    {pairs : List (String × Value)} (h : entriesOfJson ((key, value) :: rest) = .ok pairs) :
    ∃ v others, ofJson value = .ok v ∧ entriesOfJson rest = .ok others ∧
      pairs = (key, v) :: others := by
  rw [entriesOfJson] at h
  cases hvalue : ofJson value with
  | error e =>
      rw [hvalue] at h
      cases h
  | ok v =>
      rw [hvalue] at h
      obtain ⟨others, hrest, rfl⟩ := Results.of_map h
      exact ⟨v, others, rfl, hrest, rfl⟩

mutual

theorem distinct_of_ofJson {j : Json} {v : Value} (h : ofJson j = .ok v) : v.Distinct := by
  cases j with
  | null | bool | real | string =>
      cases h
      trivial
  | whole n =>
      rw [ofJson] at h
      cases hn : n.toInt64? with
      | none => simp [hn] at h
      | some k =>
          simp only [hn, Except.ok.injEq] at h
          subst h
          trivial
  | array items =>
      rw [ofJson] at h
      obtain ⟨values, hitems, rfl⟩ := Results.of_map h
      exact distinctItems_of_itemsOfJson hitems
  | object members =>
      obtain ⟨entries⟩ := members
      rw [ofJson] at h
      obtain ⟨pairs, hentries, rfl⟩ := Results.of_map h
      exact distinct_mapping_ofList (distinctEntries_of_entriesOfJson hentries)

theorem distinctItems_of_itemsOfJson {items : List Json} {values : List Value}
    (h : itemsOfJson items = .ok values) : DistinctItems values := by
  cases items with
  | nil =>
      cases h
      trivial
  | cons item rest =>
      obtain ⟨v, others, hitem, hrest, rfl⟩ := itemsOfJson_cons h
      exact ⟨distinct_of_ofJson hitem, distinctItems_of_itemsOfJson hrest⟩

theorem distinctEntries_of_entriesOfJson {entries : List (String × Json)}
    {pairs : List (String × Value)} (h : entriesOfJson entries = .ok pairs) :
    DistinctEntries pairs := by
  cases entries with
  | nil =>
      cases h
      trivial
  | cons entry rest =>
      obtain ⟨key, value⟩ := entry
      obtain ⟨v, others, hvalue, hrest, rfl⟩ := entriesOfJson_cons h
      exact ⟨distinct_of_ofJson hvalue, distinctEntries_of_entriesOfJson hrest⟩

end

end Value

/-! ## Documents -/

namespace Document

/-- No mapping in an instruction of the document has a key twice. -/
def Distinct (d : Document) : Prop := Value.DistinctItems d.instructions

theorem distinct_of_addEntries {d d' : Document} {entries : List (String × Value)}
    (hd : d.Distinct) (hentries : Value.DistinctEntries entries)
    (h : d.addEntries entries = .ok d') : d'.Distinct := by
  induction entries generalizing d with
  | nil =>
      cases h
      exact hd
  | cons entry rest ih =>
      obtain ⟨key, value⟩ := entry
      unfold addEntries at h
      by_cases hkey : key ≠ instructionsKey
      · rw [if_pos hkey] at h
        refine ih ?_ hentries.2 h
        exact hd
      · rw [if_neg hkey] at h
        cases value with
        | sequence items =>
            refine ih ?_ hentries.2 h
            exact hentries.1
        | null =>
            refine ih ?_ hentries.2 h
            trivial
        | bool | integer | float | string | mapping => cases h

theorem distinct_of_ofValue {v : Value} {d : Document} (hv : v.Distinct)
    (h : ofValue v = .ok d) : d.Distinct := by
  cases v with
  | null =>
      cases h
      trivial
  | sequence items =>
      cases h
      exact hv
  | mapping m => exact distinct_of_addEntries (d := empty) trivial (Value.distinct_entries hv) h
  | bool | integer | float | string => cases h

/-- No document of a text has a mapping with a key twice. -/
theorem distinct_of_ofText {s : String} {d : Document} (h : ofText s = .ok d) : d.Distinct := by
  unfold ofText at h
  by_cases hblank : Text.isBlankText s
  · rw [if_pos hblank] at h
    cases h
    trivial
  · rw [if_neg hblank] at h
    cases hnode : Yaml.Node.ofText s with
    | error problem => simp [hnode] at h
    | ok node =>
        rw [hnode] at h
        obtain ⟨v, hvalue, hdocument⟩ := Results.of_bind h
        exact distinct_of_ofValue (Value.distinct_of_ofYaml hvalue) hdocument

end Document

end ImageRecipe
