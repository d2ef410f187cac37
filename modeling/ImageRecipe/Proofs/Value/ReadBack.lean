import ImageRecipe.Instruction.Builtin
import ImageRecipe.Proofs.Json.Grammar
import ImageRecipe.Proofs.Value.Json
import ImageRecipe.Proofs.Value.Plain

/-!
# Values are read back from their arrays

An array on an instruction line is strict JSON on one physical line, and it leads back to the very
values that it was made of, as long as none of them holds a float and the array nests no deeper
than JSON is read.

* `Value.FloatFree` : values without floats, at any depth
* `Value.legible_toJson` : their trees are read back
* `SpellsItems`, `Body.spellsItems_jsonArray` : what the text of an array says
-/

namespace ImageRecipe

open Json (Legible LegibleItems LegibleMembers)

namespace Value

mutual

/-- There is no float in the value. -/
def FloatFree : Value → Prop
  | .float _ => False
  | .sequence items => FloatFreeItems items
  | .mapping ⟨entries⟩ => FloatFreeEntries entries
  | _ => True

def FloatFreeItems : List Value → Prop
  | [] => True
  | item :: rest => item.FloatFree ∧ FloatFreeItems rest

def FloatFreeEntries : List (String × Value) → Prop
  | [] => True
  | (_, value) :: rest => value.FloatFree ∧ FloatFreeEntries rest

end

mutual

/-- Without floats there is none that is no number. -/
theorem FloatFree.finite {v : Value} (h : v.FloatFree) : v.Finite := by
  cases v with
  | null | bool | integer | string => trivial
  | float x => exact h.elim
  | sequence items => exact FloatFreeItems.finite h
  | mapping m =>
      obtain ⟨entries⟩ := m
      exact FloatFreeEntries.finite h

theorem FloatFreeItems.finite {items : List Value} (h : FloatFreeItems items) :
    FiniteItems items := by
  cases items with
  | nil => trivial
  | cons item rest => exact ⟨FloatFree.finite h.1, FloatFreeItems.finite h.2⟩

theorem FloatFreeEntries.finite {entries : List (String × Value)} (h : FloatFreeEntries entries) :
    FiniteEntries entries := by
  cases entries with
  | nil => trivial
  | cons e rest =>
      obtain ⟨key, value⟩ := e
      exact ⟨FloatFree.finite h.1, FloatFreeEntries.finite h.2⟩

end

/-- Entries with distinct keys are the members of their object as they stand. -/
theorem toJson_mapping {entries : List (String × Value)} (h : (entries.map Prod.fst).Nodup) :
    (Value.mapping ⟨entries⟩).toJson = .object ⟨entriesToJson entries⟩ := by
  rw [toJson, Mapping.ofList_eq]
  rw [keys_entriesToJson]
  exact h

mutual

/-- The tree of a value without floats is read back from its text, if it does not nest too deep. -/
theorem legible_toJson (v : Value) (depth : Nat) (hv : v.Distinct) (hfree : v.FloatFree)
    (hdepth : v.depth ≤ depth) : v.toJson.Legible depth := by
  cases v with
  | null | bool | integer | string => cases depth <;> trivial
  | float x => exact hfree.elim
  | sequence items =>
      rw [Value.depth] at hdepth
      obtain ⟨depth, rfl⟩ : ∃ k, depth = k + 1 := Nat.exists_eq_succ_of_ne_zero (by omega)
      exact legible_itemsToJson items depth hv hfree (by omega)
  | mapping m =>
      obtain ⟨entries⟩ := m
      rw [Value.depth] at hdepth
      obtain ⟨depth, rfl⟩ : ∃ k, depth = k + 1 := Nat.exists_eq_succ_of_ne_zero (by omega)
      obtain ⟨hkeys, hentries⟩ : (entries.map Prod.fst).Nodup ∧ DistinctEntries entries := hv
      rw [toJson_mapping hkeys]
      -- the keys of the tree are those of the mapping
      refine ⟨by rw [keys_entriesToJson]; exact hkeys, ?_⟩
      exact legible_entriesToJson entries depth hentries hfree (by omega)

theorem legible_itemsToJson (items : List Value) (depth : Nat) (hitems : DistinctItems items)
    (hfree : FloatFreeItems items) (hdepth : depthOfItems items ≤ depth) :
    LegibleItems depth (itemsToJson items) := by
  cases items with
  | nil => trivial
  | cons item rest =>
      rw [depthOfItems] at hdepth
      exact ⟨legible_toJson item depth hitems.1 hfree.1 (by omega),
        legible_itemsToJson rest depth hitems.2 hfree.2 (by omega)⟩

theorem legible_entriesToJson (entries : List (String × Value)) (depth : Nat)
    (hentries : DistinctEntries entries) (hfree : FloatFreeEntries entries)
    (hdepth : depthOfEntries entries ≤ depth) :
    LegibleMembers depth (entriesToJson entries) := by
  cases entries with
  | nil => trivial
  | cons e rest =>
      obtain ⟨key, value⟩ := e
      rw [depthOfEntries] at hdepth
      exact ⟨legible_toJson value depth hentries.1 hfree.1 (by omega),
        legible_entriesToJson rest depth hentries.2 hfree.2 (by omega)⟩

end

end Value

/-! ## Arrays on a line -/

/-- The text is strict JSON, and read as a value it is the sequence of the items. -/
structure SpellsItems (text : String) (items : List Value) : Prop where
  strict : Json.IsText text
  back : ∃ j, Json.parse text = some j ∧ Value.ofJson j = .ok (.sequence items)

namespace Body

/-- A space follows each comma between the items, and none stands inside them. -/
theorem toList_joinWith_text (items : List Value) :
    (Layout.joinWith ", " (items.map fun v => v.toJson.text)).toList =
      Json.spacedItems [' '] (Value.itemsToJson items) := by
  have hseparator : ", ".toList = [',', ' '] := by decide
  match items with
  | [] => rfl
  | [item] => exact String.toList_ofList
  | item :: next :: rest =>
      have hrest := toList_joinWith_text (next :: rest)
      rw [List.map_cons] at hrest
      rw [List.map_cons, List.map_cons, Layout.joinWith, String.toList_append,
        String.toList_append, hrest, hseparator, Json.text, String.toList_ofList, List.append_assoc]
      rfl

theorem toList_jsonArray (items : List Value) :
    (jsonArray items).toList =
      '[' :: (Json.spacedItems [' '] (Value.itemsToJson items) ++ [']']) := by
  rw [jsonArray, String.toList_append, String.toList_append, toList_joinWith_text]
  rfl

/-- The text of an array spells its items. -/
theorem spellsItems_jsonArray {items : List Value} (hitems : Value.DistinctItems items)
    (hfree : Value.FloatFreeItems items) (hdepth : (Value.sequence items).depth ≤ Json.maxDepth) :
    SpellsItems (jsonArray items) items := by
  have hlegible := Value.legible_toJson (.sequence items) Json.maxDepth hitems hfree hdepth
  have hspace : [' '].all Json.isSpace = true := by decide
  have hparse : Json.parse (jsonArray items) = some (.array (Value.itemsToJson items)) :=
    Json.parse_spacedArray hspace (toList_jsonArray items) hlegible
  have hback := Value.ofJson_toJson (.sequence items) hitems
  rw [Value.finite_eq_self (.sequence items) (Value.FloatFreeItems.finite hfree)] at hback
  exact ⟨Json.isText_of_parse hparse, _, hparse, hback⟩

end Body

end ImageRecipe
