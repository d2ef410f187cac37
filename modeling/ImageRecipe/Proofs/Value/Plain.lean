import ImageRecipe.Instruction.Builtin
import ImageRecipe.Proofs.Json.Printer
import ImageRecipe.Proofs.Mapping
import ImageRecipe.Proofs.Text.LogicalLine

/-!
# Plain values

Values that are typed in one line: no text in them, key or value and at any depth, has a newline or
ends in a backslash.  Whatever is written of such a value into a line is plain itself.

* `Value.Plain` : all texts in a value are plain
* `Value.plain_of_scalarText?` : scalars are written as plain texts
* `Body.plainText_jsonArray` : an array of JSON texts is plain, whatever the values are
-/

namespace ImageRecipe

open Text

namespace Value

mutual

/-- Every text in a value is plain. -/
def Plain : Value → Prop
  | .string s => PlainText s
  | .sequence items => PlainItems items
  | .mapping ⟨entries⟩ => PlainEntries entries
  | _ => True

/-- So it is in each item. -/
def PlainItems : List Value → Prop
  | [] => True
  | item :: rest => item.Plain ∧ PlainItems rest

/-- So it is with each key, and in its value. -/
def PlainEntries : List (String × Value) → Prop
  | [] => True
  | (key, value) :: rest => PlainText key ∧ value.Plain ∧ PlainEntries rest

end

theorem plainItems_iff {items : List Value} : PlainItems items ↔ ∀ v ∈ items, v.Plain := by
  induction items with
  | nil => simp [PlainItems]
  | cons item rest ih => simp [PlainItems, ih]

theorem plainEntries_iff {entries : List (String × Value)} :
    PlainEntries entries ↔ ∀ e ∈ entries, PlainText e.1 ∧ e.2.Plain := by
  induction entries with
  | nil => simp [PlainEntries]
  | cons e rest ih => simp [PlainEntries, ih, and_assoc]

theorem plain_of_get? {m : Mapping Value} {key : String} {v : Value}
    (hm : (Value.mapping m).Plain) (h : m.get? key = some v) : v.Plain :=
  (plainEntries_iff.mp hm _ (Mapping.mem_of_get? h)).2

/-! ## Scalars -/

theorem plainText_of_number {cs : List Char} (h : cs.all Decimal.isNumberChar = true) :
    PlainText (String.ofList cs) := by
  rw [List.all_eq_true] at h
  refine ⟨fun hmem => ?_, fun hlast => ?_⟩
  · rw [String.toList_ofList] at hmem
    exact absurd (h _ hmem) (by decide)
  · rw [String.toList_ofList] at hlast
    exact absurd (h _ (List.mem_of_getLast? hlast)) (by decide)

/-- A scalar of a plain value is written as a plain text. -/
theorem plain_of_scalarText? {v : Value} {s : String} (hv : v.Plain) (h : v.scalarText? = some s) :
    PlainText s := by
  cases v with
  | null => cases h; decide
  | bool b => cases h; cases b <;> decide
  | integer n => cases h; exact plainText_of_number (Decimal.all_integerChars n.toInt)
  | float x => cases h; exact plainText_of_number (Decimal.all_plain_chars x)
  | string text => cases h; exact hv
  | sequence items => cases h
  | mapping m => cases h

end Value

/-! ## JSON -/

/-- Texts that are joined have the characters of the texts and of the separator. -/
theorem Layout.all_joinWith {p : Char → Bool} {separator : String} {texts : List String}
    (hseparator : separator.toList.all p = true) (h : ∀ s ∈ texts, s.toList.all p = true) :
    (joinWith separator texts).toList.all p = true := by
  induction texts with
  | nil => rfl
  | cons first rest ih =>
      rw [List.forall_mem_cons] at h
      cases rest with
      | nil => exact h.1
      | cons second rest =>
          simp only [joinWith, String.toList_append, List.all_append, h.1, hseparator, ih h.2,
            Bool.and_self]

namespace Body

/-- There are no control characters in an array of values. -/
theorem all_jsonArray (items : List Value) :
    (jsonArray items).toList.all Json.isShown = true := by
  have hitems : (Layout.joinWith ", " (items.map fun v => v.toJson.text)).toList.all
      Json.isShown = true := by
    refine Layout.all_joinWith (by decide) fun s hs => ?_
    obtain ⟨v, -, rfl⟩ := List.mem_map.mp hs
    rw [Json.text, String.toList_ofList]
    exact v.toJson.all_chars
  have hopen : "[".toList.all Json.isShown = true := by decide
  have hclose : "]".toList.all Json.isShown = true := by decide
  simp only [jsonArray, String.toList_append, List.all_append, hopen, hitems, hclose,
    Bool.and_self]

/-- So it is one line, and it ends in a bracket. -/
theorem plainText_jsonArray (items : List Value) : PlainText (jsonArray items) := by
  refine ⟨fun hmem => ?_, ?_⟩
  · exact absurd (List.all_eq_true.mp (all_jsonArray items) _ hmem) (by decide)
  · have hlast : (jsonArray items).toList.getLast? = some ']' := by
      rw [jsonArray, String.toList_append, List.getLast?_append]
      rfl
    rw [hlast]
    decide

end Body

end ImageRecipe
