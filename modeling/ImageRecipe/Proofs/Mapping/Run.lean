import ImageRecipe.Proofs.Mapping.History
import ImageRecipe.Proofs.Value.Comparison

/-!
# Runs of operations on a mapping

Insertions and extensions, in whatever order, add up to one history of pairs.  So what holds of a
mapping that was made of pairs holds after every run.

* `Mapping.Step`, `Mapping.run` : operations, one after the other
* `Mapping.step_ofList`, `Mapping.run_ofList` : what an operation adds to the history, and a run
* `Mapping.getElem?_insert` : where an insertion changes nothing
* `Mapping.insertion_ordered` : what is seen of a mapping after a run
-/

namespace ImageRecipe.Mapping

variable {α : Type}

/-- What can be done to a mapping. -/
inductive Step (α : Type) where
  /-- Sets the value of a key. -/
  | insert (key : String) (value : α)
  /-- Lays another mapping over this one. -/
  | extend (other : Mapping α)

/-- The pairs that an operation brings. -/
def Step.pairs : Step α → List (String × α)
  | .insert key value => [(key, value)]
  | .extend other => other.entries

/-- Does one operation. -/
def step (m : Mapping α) : Step α → Mapping α
  | .insert key value => m.insert key value
  | .extend other => merge [m, other]

/-- Does operations one after the other. -/
def run (m : Mapping α) (steps : List (Step α)) : Mapping α := steps.foldl step m

/-- An operation adds its pairs to the history. -/
theorem step_ofList (history : List (String × α)) (s : Step α) :
    (ofList history).step s = ofList (history ++ s.pairs) := by
  rw [ofList_append]
  cases s with
  | insert key value => rfl
  | extend other => exact merge_pair (distinct_ofList history) other

/-- A run adds the pairs of all its operations. -/
theorem run_ofList (history : List (String × α)) (steps : List (Step α)) :
    (ofList history).run steps = ofList (history ++ steps.flatMap Step.pairs) := by
  induction steps generalizing history with
  | nil => simp [run]
  | cons s rest ih =>
      have hcons : (ofList history).run (s :: rest) = ((ofList history).step s).run rest := rfl
      rw [hcons, step_ofList, ih, List.flatMap_cons, List.append_assoc]

/-- An insertion leaves the entries of other keys as they are and where they are. -/
theorem getElem?_insert (m : Mapping α) {key name : String} (h : name ≠ key) (value found : α)
    (i : Nat) : (m.insert key value).entries[i]? = some (name, found) ↔
      m.entries[i]? = some (name, found) := by
  obtain ⟨entries⟩ := m
  have hnot : ∀ v : α, (key, v) ≠ (name, found) := by
    intro v heq
    exact h (congrArg Prod.fst heq).symm
  simp only [insert]
  induction entries generalizing i with
  | nil =>
      rw [insertEntry]
      cases i with
      | zero => simp [hnot]
      | succ i => simp
  | cons e rest ih =>
      obtain ⟨first, old⟩ := e
      rw [insertEntry]
      by_cases hfirst : first = key
      · subst hfirst
        rw [if_pos rfl]
        cases i with
        | zero => simp [hnot]
        | succ i => rfl
      · rw [if_neg hfirst]
        cases i with
        | zero => rfl
        | succ i => exact ih i

/-- A mapping is a dictionary in the order of insertion.  Whatever pairs it was made of and whatever
was done to it since, all that is seen of it is told by the pairs that came in; it can be collected
again from its entries, to something that equals it unless NaN occurs; and one more insertion
leaves the other entries alone. -/
theorem insertion_ordered (pairs : List (String × Value)) (steps : List (Step Value)) :
    ((ofList pairs).run steps).Records (pairs ++ steps.flatMap Step.pairs) ∧
    ofList ((ofList pairs).run steps).entries = (ofList pairs).run steps ∧
    ((ofList ((ofList pairs).run steps).entries).equals ((ofList pairs).run steps) = true ↔
      (Value.mapping ((ofList pairs).run steps)).NumbersOnly) ∧
    ∀ (key name : String) (value found : Value) (i : Nat), name ≠ key →
      ((((ofList pairs).run steps).insert key value).entries[i]? = some (name, found) ↔
        ((ofList pairs).run steps).entries[i]? = some (name, found)) := by
  rw [run_ofList]
  have hrecords := records_ofList (pairs ++ steps.flatMap Step.pairs)
  have hagain := ofList_entries hrecords.distinct
  refine ⟨hrecords, hagain, ?_, fun key name value found i hname => ?_⟩
  · rw [hagain]
    exact Value.equalsEntries_self_iff _
  · exact getElem?_insert _ hname value found i

/-- Three pairs, two of them with one key. -/
def layeredPairs : List (String × Value) :=
  [("a", .null), ("b", .bool true), ("a", .string "x")]

/-- An insertion, and a mapping that brings a key again. -/
def layeredSteps : List (Step Value) :=
  [.insert "c" .null, .extend ⟨[("d", .null), ("a", .string "y")]⟩]

/-- The key that came first stands first, with the value that came last; when it comes once more,
the key behind it stays where it is. -/
theorem insertion_ordered_layered :
    ((ofList layeredPairs).run layeredSteps).entries =
      [("a", .string "y"), ("b", .bool true), ("c", .null), ("d", .null)] ∧
    "b" ≠ "a" ∧
    (((ofList layeredPairs).run layeredSteps).insert "a" .null).entries[1]? =
      some ("b", .bool true) := by
  obtain ⟨hrecords, -, -, hothers⟩ := insertion_ordered layeredPairs layeredSteps
  have hentries : ((ofList layeredPairs).run layeredSteps).entries =
      [("a", .string "y"), ("b", .bool true), ("c", .null), ("d", .null)] := by
    rw [hrecords.entries, hrecords.keys]
    rfl
  have hne : "b" ≠ "a" := by decide
  exact ⟨hentries, hne, (hothers "a" "b" .null (.bool true) 1 hne).mpr (by rw [hentries]; rfl)⟩

end ImageRecipe.Mapping
