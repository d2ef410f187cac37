import ImageRecipe.Proofs.Value.Json

/-!
# Values and JSON trees are inverse

Two things are lost between values and JSON trees: a double that is no number has no tree, and a
whole number above the signed words has no value.  Everything else comes back, either way.

* `Json.Distinct`, `Json.wholes` : keys and whole numbers of a tree
* `Value.error?_ofJson` : a tree is refused for its first whole number that is too large
* `Value.toJson_ofJson` : the round trip of a tree
* `Value.ofJson_toJson_inverse` : both round trips, and when there is none
-/

namespace ImageRecipe

namespace Json

mutual

/-- No object in a tree has a key twice. -/
def Distinct : Json → Prop
  | .array items => DistinctItems items
  | .object ⟨entries⟩ => (entries.map Prod.fst).Nodup ∧ DistinctMembers entries
  | _ => True

def DistinctItems : List Json → Prop
  | [] => True
  | item :: rest => item.Distinct ∧ DistinctItems rest

def DistinctMembers : List (String × Json) → Prop
  | [] => True
  | (_, value) :: rest => value.Distinct ∧ DistinctMembers rest

end

mutual

/-- The whole numbers of a tree, in the order of its text. -/
def wholes : Json → List Whole
  | .whole n => [n]
  | .array items => wholesOfItems items
  | .object ⟨entries⟩ => wholesOfMembers entries
  | _ => []

def wholesOfItems : List Json → List Whole
  | [] => []
  | item :: rest => item.wholes ++ wholesOfItems rest

def wholesOfMembers : List (String × Json) → List Whole
  | [] => []
  | (_, value) :: rest => value.wholes ++ wholesOfMembers rest

end

end Json

namespace Whole

/-- The number lies above the signed words. -/
def isLarge (n : Whole) : Bool := 9223372036854775807 < n.value

theorem isLarge_iff {n : Whole} : n.isLarge = true ↔ 9223372036854775807 < n.value :=
  decide_eq_true_iff

/-- The error for a number that has no signed word. -/
def refusal (n : Whole) : DocumentError := .numberOutOfRange (Decimal.integerText n.value)

/-- A whole number that has a signed word is that word. -/
theorem ofInt64_of_toInt64? {n : Whole} {k : Int64} (h : n.toInt64? = some k) : ofInt64 k = n := by
  unfold toInt64? at h
  split at h
  · rename_i hfits
    cases h
    have hmost : n.value < 2 ^ 63 := hfits
    exact Whole.ext (Int64.toInt_ofInt_of_le n.least hmost)
  · cases h

end Whole

namespace Value

open Results

/-! ## Trees that are refused -/

theorem error?_ofJson_whole (n : Whole) :
    error? (ofJson (.whole n)) = ([n].find? Whole.isLarge).map Whole.refusal := by
  rw [ofJson]
  cases hn : n.toInt64? with
  | none =>
      have hvalue := Whole.toInt64?_eq_none_iff.mp hn
      have hlarge : n.isLarge = true := Whole.isLarge_iff.mpr (by omega)
      rw [List.find?_cons_of_pos hlarge]
      rfl
  | some k =>
      have hsmall : ¬n.isLarge = true := by
        intro hlarge
        have hvalue := Whole.isLarge_iff.mp hlarge
        rw [Whole.toInt64?_eq_none_iff.mpr (by omega)] at hn
        cases hn
      rw [List.find?_cons_of_neg hsmall]
      rfl

mutual

/-- A tree is refused for the first of its whole numbers that is too large, and for nothing else. -/
theorem error?_ofJson (j : Json) :
    error? (ofJson j) = (j.wholes.find? Whole.isLarge).map Whole.refusal := by
  cases j with
  | null | bool | real | string => rfl
  | whole n => exact error?_ofJson_whole n
  | array items => rw [ofJson, error?_map, Json.wholes, error?_itemsOfJson]
  | object members =>
      obtain ⟨entries⟩ := members
      rw [ofJson, error?_map, Json.wholes, error?_entriesOfJson]

theorem error?_itemsOfJson (items : List Json) :
    error? (itemsOfJson items) =
      ((Json.wholesOfItems items).find? Whole.isLarge).map Whole.refusal := by
  cases items with
  | nil => rfl
  | cons item rest =>
      -- the numbers of the item come before those of the rest, and so does its error
      rw [Json.wholesOfItems, List.find?_append, Option.map_or, ← error?_ofJson item,
        ← error?_itemsOfJson rest, itemsOfJson]
      cases ofJson item with
      | error e => rfl
      | ok v => exact error?_map _ _

theorem error?_entriesOfJson (entries : List (String × Json)) :
    error? (entriesOfJson entries) =
      ((Json.wholesOfMembers entries).find? Whole.isLarge).map Whole.refusal := by
  cases entries with
  | nil => rfl
  | cons e rest =>
      obtain ⟨key, value⟩ := e
      rw [Json.wholesOfMembers, List.find?_append, Option.map_or, ← error?_ofJson value,
        ← error?_entriesOfJson rest, entriesOfJson]
      cases ofJson value with
      | error e => rfl
      | ok v => exact error?_map _ _

end

/-- There is no value for a tree if and only if one of its whole numbers is too large. -/
theorem ofJson_isError_iff (j : Json) :
    (∃ e, ofJson j = .error e) ↔ ∃ n ∈ j.wholes, 9223372036854775807 < n.value := by
  have herror : (∃ e, ofJson j = .error e) ↔ (j.wholes.find? Whole.isLarge).isSome = true := by
    rw [← Option.isSome_map, ← error?_ofJson, Option.isSome_iff_exists]
    exact exists_congr fun e => error?_eq_some_iff.symm
  rw [herror, List.find?_isSome]
  exact exists_congr fun n => and_congr_right fun _ => Whole.isLarge_iff

/-! ## The round trip of a tree -/

theorem keys_entriesOfJson {entries : List (String × Json)} {pairs : List (String × Value)}
    (h : entriesOfJson entries = .ok pairs) : pairs.map Prod.fst = entries.map Prod.fst := by
  induction entries generalizing pairs with
  | nil =>
      cases h
      rfl
  | cons e rest ih =>
      obtain ⟨key, value⟩ := e
      obtain ⟨v, others, -, hrest, rfl⟩ := entriesOfJson_cons h
      rw [List.map_cons, List.map_cons, ih hrest]

mutual

/-- A tree comes back from its value, if it has one. -/
theorem toJson_ofJson (j : Json) (hj : j.Distinct) {v : Value} (h : ofJson j = .ok v) :
    v.toJson = j := by
  cases j with
  | null | bool | string =>
      cases h
      rfl
  | real x =>
      cases h
      rw [toJson, Json.ofFloat, dif_pos x.finite]
  | whole n =>
      rw [ofJson] at h
      cases hn : n.toInt64? with
      | none =>
          rw [hn] at h
          cases h
      | some k =>
          rw [hn] at h
          cases h
          rw [toJson, Whole.ofInt64_of_toInt64? hn]
  | array items =>
      rw [ofJson] at h
      obtain ⟨values, hitems, rfl⟩ := of_map h
      rw [toJson, itemsToJson_itemsOfJson items hj hitems]
  | object members =>
      obtain ⟨entries⟩ := members
      obtain ⟨hkeys, hvalues⟩ : (entries.map Prod.fst).Nodup ∧ Json.DistinctMembers entries := hj
      rw [ofJson] at h
      obtain ⟨pairs, hentries, rfl⟩ := of_map h
      -- both sides are built by insertion, which changes nothing where keys are distinct
      have hpairs : Mapping.ofList pairs = ⟨pairs⟩ :=
        Mapping.ofList_eq (by rw [keys_entriesOfJson hentries]; exact hkeys)
      rw [hpairs, toJson, entriesToJson_entriesOfJson entries hvalues hentries,
        Mapping.ofList_eq hkeys]

theorem itemsToJson_itemsOfJson (items : List Json) (hitems : Json.DistinctItems items)
    {values : List Value} (h : itemsOfJson items = .ok values) : itemsToJson values = items := by
  cases items with
  | nil =>
      cases h
      rfl
  | cons item rest =>
      obtain ⟨v, others, hitem, hrest, rfl⟩ := itemsOfJson_cons h
      rw [itemsToJson, toJson_ofJson item hitems.1 hitem,
        itemsToJson_itemsOfJson rest hitems.2 hrest]

theorem entriesToJson_entriesOfJson (entries : List (String × Json))
    (hentries : Json.DistinctMembers entries) {pairs : List (String × Value)}
    (h : entriesOfJson entries = .ok pairs) : entriesToJson pairs = entries := by
  cases entries with
  | nil =>
      cases h
      rfl
  | cons e rest =>
      obtain ⟨key, value⟩ := e
      obtain ⟨v, others, hvalue, hrest, rfl⟩ := entriesOfJson_cons h
      rw [entriesToJson, toJson_ofJson value hentries.1 hvalue,
        entriesToJson_entriesOfJson rest hentries.2 hrest]

end

/-! ## Both ways -/

/-- Values and trees are inverse to each other, but for doubles that are no numbers on one side
and whole numbers above the signed words on the other. -/
theorem ofJson_toJson_inverse :
    (∀ v : Value, v.Distinct →
      ofJson v.toJson = .ok v.finite ∧ (v.Finite → ofJson v.toJson = .ok v)) ∧
    (∀ j : Json, (∃ e, ofJson j = .error e) ↔ ∃ n ∈ j.wholes, 9223372036854775807 < n.value) ∧
    ∀ (j : Json) (v : Value), j.Distinct → ofJson j = .ok v → v.toJson = j := by
  refine ⟨fun v hv => ⟨ofJson_toJson v hv, fun hfinite => ?_⟩, ofJson_isError_iff,
    fun j v hj h => toJson_ofJson j hj h⟩
  have hback := ofJson_toJson v hv
  rw [finite_eq_self v hfinite] at hback
  exact hback

/-- A mapping whose keys are not in alphabetical order, with the least and the greatest integer. -/
def limits : Value :=
  .mapping ⟨[("least", .integer Int64.minValue),
    ("between", .sequence [.null, .mapping ⟨[]⟩, .string "\n"]),
    ("greatest", .integer Int64.maxValue)]⟩

/-- Both ways at the limits of the integers. -/
theorem ofJson_toJson_limits :
    ofJson limits.toJson = .ok limits ∧
      ofJson (.array [.whole ⟨9223372036854775807, by decide, by decide⟩]) =
        .ok (.sequence [.integer Int64.maxValue]) ∧
      (Value.sequence [.integer Int64.maxValue]).toJson =
        .array [.whole ⟨9223372036854775807, by decide, by decide⟩] := by
  have hdistinct : limits.Distinct := by
    simp [limits, Distinct, DistinctEntries, DistinctItems]
  have hfinite : limits.Finite := by
    simp [limits, Finite, FiniteEntries, FiniteItems]
  have htree : Json.Distinct (.array [.whole ⟨9223372036854775807, by decide, by decide⟩]) :=
    ⟨trivial, trivial⟩
  exact ⟨(ofJson_toJson_inverse.1 limits hdistinct).2 hfinite, rfl,
    ofJson_toJson_inverse.2.2 _ _ htree rfl⟩

end Value

end ImageRecipe
