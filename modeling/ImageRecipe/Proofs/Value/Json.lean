import ImageRecipe.Proofs.Value.Distinct

/-!
# Values survive as JSON trees

A value comes back from its JSON tree as it was, but for the doubles that are no numbers: they come
back as null.  Both ways keep the order of entries, so only the distinctness of keys is needed.

* `Value.ofJson_toJson` : the round trip of a value
* `Value.Finite`, `Document.finite_eq_self` : where there is nothing to replace, nothing changes
-/

namespace ImageRecipe

namespace Value

/-! ## What the two ways keep -/

theorem keys_entriesToJson (entries : List (String × Value)) :
    (entriesToJson entries).map Prod.fst = entries.map Prod.fst := by
  induction entries with
  | nil => rfl
  | cons e rest ih =>
      obtain ⟨key, value⟩ := e
      rw [entriesToJson, List.map_cons, List.map_cons, ih]

theorem keys_finiteEntries (entries : List (String × Value)) :
    (finiteEntries entries).map Prod.fst = entries.map Prod.fst := by
  induction entries with
  | nil => rfl
  | cons e rest ih =>
      obtain ⟨key, value⟩ := e
      rw [finiteEntries, List.map_cons, List.map_cons, ih]

/-- A double is a number or becomes null. -/
theorem ofJson_ofFloat (x : Float) : ofJson (.ofFloat x) = .ok (finite (.float x)) := by
  unfold Json.ofFloat finite
  by_cases hx : Decimal.isFinite x = true
  · rw [dif_pos hx, if_pos hx, ofJson]
  · rw [dif_neg hx, if_neg hx, ofJson]

/-! ## The round trip -/

mutual

/-- A value comes back from its JSON tree, null in place of what is not a number. -/
theorem ofJson_toJson (v : Value) (h : v.Distinct) : ofJson v.toJson = .ok v.finite := by
  cases v with
  | null | bool | string => rfl
  | integer n =>
      rw [toJson, ofJson, Whole.toInt64?_ofInt64]
      rfl
  | float x =>
      rw [toJson]
      exact ofJson_ofFloat x
  | sequence items =>
      have hitems : DistinctItems items := h
      rw [toJson, ofJson, itemsOfJson_itemsToJson items hitems]
      rfl
  | mapping m =>
      obtain ⟨entries⟩ := m
      obtain ⟨hkeys, hentries⟩ : (entries.map Prod.fst).Nodup ∧ DistinctEntries entries := h
      -- tree and value are built by insertion, which changes nothing where keys are distinct
      have hmembers : Mapping.ofList (entriesToJson entries) = ⟨entriesToJson entries⟩ :=
        Mapping.ofList_eq (by rw [keys_entriesToJson]; exact hkeys)
      have hvalues : Mapping.ofList (finiteEntries entries) = ⟨finiteEntries entries⟩ :=
        Mapping.ofList_eq (by rw [keys_finiteEntries]; exact hkeys)
      rw [toJson, hmembers, ofJson, entriesOfJson_entriesToJson entries hentries, Except.map,
        hvalues]
      rfl

theorem itemsOfJson_itemsToJson (items : List Value) (h : DistinctItems items) :
    itemsOfJson (itemsToJson items) = .ok (finiteItems items) := by
  cases items with
  | nil => rfl
  | cons item rest =>
      rw [itemsToJson, itemsOfJson, ofJson_toJson item h.1, itemsOfJson_itemsToJson rest h.2]
      rfl

theorem entriesOfJson_entriesToJson (entries : List (String × Value))
    (h : DistinctEntries entries) :
    entriesOfJson (entriesToJson entries) = .ok (finiteEntries entries) := by
  cases entries with
  | nil => rfl
  | cons e rest =>
      obtain ⟨key, value⟩ := e
      rw [entriesToJson, entriesOfJson, ofJson_toJson value h.1,
        entriesOfJson_entriesToJson rest h.2]
      rfl

end

/-! ## Values without anything to replace -/

mutual

/-- Each double of a value is a number. -/
def Finite : Value → Prop
  | .float x => Decimal.isFinite x = true
  | .sequence items => FiniteItems items
  | .mapping ⟨entries⟩ => FiniteEntries entries
  | _ => True

/-- So it is in each item. -/
def FiniteItems : List Value → Prop
  | [] => True
  | item :: rest => item.Finite ∧ FiniteItems rest

/-- So it is in the value of each entry. -/
def FiniteEntries : List (String × Value) → Prop
  | [] => True
  | (_, value) :: rest => value.Finite ∧ FiniteEntries rest

end

mutual

/-- Where each double is a number, there is nothing to replace. -/
theorem finite_eq_self (v : Value) (h : v.Finite) : v.finite = v := by
  cases v with
  | null | bool | integer | string => rfl
  | float x =>
      have hx : Decimal.isFinite x = true := h
      rw [finite, if_pos hx]
  | sequence items => rw [finite, finiteItems_eq_self items h]
  | mapping m =>
      obtain ⟨entries⟩ := m
      rw [finite, finiteEntries_eq_self entries h]

theorem finiteItems_eq_self (items : List Value) (h : FiniteItems items) :
    finiteItems items = items := by
  cases items with
  | nil => rfl
  | cons item rest => rw [finiteItems, finite_eq_self item h.1, finiteItems_eq_self rest h.2]

theorem finiteEntries_eq_self (entries : List (String × Value)) (h : FiniteEntries entries) :
    finiteEntries entries = entries := by
  cases entries with
  | nil => rfl
  | cons e rest =>
      obtain ⟨key, value⟩ := e
      rw [finiteEntries, finite_eq_self value h.1, finiteEntries_eq_self rest h.2]

end

end Value

namespace Document

/-- Each double in the instructions of a document is a number. -/
def Finite (d : Document) : Prop := Value.FiniteItems d.instructions

theorem finite_eq_self {d : Document} (h : d.Finite) : d.finite = d := by
  obtain ⟨extra, instructions⟩ := d
  rw [finite, Value.finiteItems_eq_self instructions h]

end Document

end ImageRecipe
