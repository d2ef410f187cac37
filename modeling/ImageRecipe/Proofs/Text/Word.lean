import ImageRecipe.Text.Blank

/-!
# Words

The words of a text are the maximal runs of characters that are not blank, and a text has only one
list of such runs.

* `MaximalRuns` : the runs of a text, said without a splitter
* `maximalRuns_iff` : they are its words
-/

namespace ImageRecipe.Text

/-- The runs of characters that are not blank, each as long as it can be: what follows a run
starts with a blank, and only blanks are left out. -/
inductive MaximalRuns : List Char → List (List Char) → Prop where
  | nil : MaximalRuns [] []
  | blank {c : Char} {cs : List Char} {runs : List (List Char)} :
      isBlank c = true → MaximalRuns cs runs → MaximalRuns (c :: cs) runs
  | run {run rest : List Char} {runs : List (List Char)} :
      run ≠ [] → (∀ c ∈ run, isBlank c = false) → (∀ c, rest.head? = some c → isBlank c = true) →
        MaximalRuns rest runs → MaximalRuns (run ++ rest) (run :: runs)

/-- The words of the characters. -/
def wordsOf (cs : List Char) : List (List Char) := consWord (splitWords cs).1 (splitWords cs).2

theorem words_eq (s : String) : words s = (wordsOf s.toList).map String.ofList := rfl

theorem wordsOf_blank {c : Char} (hc : isBlank c = true) (cs : List Char) :
    wordsOf (c :: cs) = wordsOf cs := by
  simp only [wordsOf, splitWords, hc, if_true, consWord, List.isEmpty_nil]

/-- In front of a blank, a run is split off as it is. -/
theorem splitWords_run {run rest : List Char} (hrun : ∀ c ∈ run, isBlank c = false)
    (hrest : ∀ c, rest.head? = some c → isBlank c = true) :
    splitWords (run ++ rest) = (run, wordsOf rest) := by
  induction run with
  | nil =>
      cases rest with
      | nil => rfl
      | cons c cs =>
          have hc := hrest c rfl
          rw [wordsOf_blank hc, List.nil_append]
          simp only [splitWords, hc, if_true, wordsOf]
  | cons c run ih =>
      rw [List.forall_mem_cons] at hrun
      rw [List.cons_append]
      simp only [splitWords, ih hrun.2, hrun.1, Bool.false_eq_true, if_false]

/-- Whatever runs a text has, they are its words. -/
theorem wordsOf_of_maximalRuns {cs : List Char} {runs : List (List Char)}
    (h : MaximalRuns cs runs) : wordsOf cs = runs := by
  induction h with
  | nil => rfl
  | blank hc _ ih => rw [wordsOf_blank hc, ih]
  | run hne hrun hrest _ ih =>
      rw [wordsOf, splitWords_run hrun hrest, consWord, if_neg (by simpa using hne), ih]

/-- A front run, if there is one, and the runs of what follows it. -/
theorem maximalRuns_consWord {run rest : List Char} {runs : List (List Char)}
    (hrun : ∀ c ∈ run, isBlank c = false) (hrest : ∀ c, rest.head? = some c → isBlank c = true)
    (hruns : MaximalRuns rest runs) : MaximalRuns (run ++ rest) (consWord run runs) := by
  rw [consWord]
  split
  · rename_i hempty
    rw [List.isEmpty_iff.mp hempty, List.nil_append]
    exact hruns
  · rename_i hne
    exact .run (by simpa using hne) hrun hrest hruns

/-- The splitter finds the front run and, in a rest that starts with a blank, the others. -/
theorem maximalRuns_splitWords (cs : List Char) :
    ∃ rest, cs = (splitWords cs).1 ++ rest ∧ (∀ c ∈ (splitWords cs).1, isBlank c = false) ∧
      (∀ c, rest.head? = some c → isBlank c = true) ∧ MaximalRuns rest (splitWords cs).2 := by
  induction cs with
  | nil => exact ⟨[], rfl, nofun, nofun, .nil⟩
  | cons c cs ih =>
      obtain ⟨rest, hcs, hrun, hrest, hruns⟩ := ih
      by_cases hc : isBlank c = true
      · have hothers := maximalRuns_consWord hrun hrest hruns
        rw [← hcs] at hothers
        simp only [splitWords, hc, if_true]
        refine ⟨c :: cs, rfl, nofun, fun d hd => ?_, .blank hc hothers⟩
        rw [List.head?_cons, Option.some.injEq] at hd
        exact hd ▸ hc
      · simp only [splitWords, hc, Bool.false_eq_true, if_false]
        refine ⟨rest, by rw [List.cons_append, ← hcs], ?_, hrest, hruns⟩
        rw [List.forall_mem_cons]
        exact ⟨Bool.eq_false_iff.mpr hc, hrun⟩

/-- The words are the maximal runs, and there are no others. -/
theorem maximalRuns_iff {cs : List Char} {runs : List (List Char)} :
    MaximalRuns cs runs ↔ runs = wordsOf cs := by
  constructor
  · intro h
    exact (wordsOf_of_maximalRuns h).symm
  · rintro rfl
    obtain ⟨rest, hcs, hrun, hrest, hruns⟩ := maximalRuns_splitWords cs
    have hall := maximalRuns_consWord hrun hrest hruns
    rw [← hcs] at hall
    exact hall

end ImageRecipe.Text
