import ImageRecipe.Layout

/-!
# Logical lines

A newline that directly follows a backslash continues a line; every other newline ends one.  Texts
in which each newline is continued, and which do not end in a backslash, can be put together to
such texts; and if each of a list of them is ended by a newline, they are found again by cutting at
the newlines that are not continued.

* `cutLines`, `logicalLines` : the lines of a text, and what follows the last
* `LogicalLine`, `PlainText` : one line, perhaps continued, and one without any newline
* `LogicalLine.append`, `LogicalLine.joinWith`, … : what they are put together to
* `logicalLines_join` : cutting finds them again
-/

namespace ImageRecipe.Text

/-! ## Cutting -/

/-- Cuts the characters at the newlines that do not directly follow a backslash, and gives the
lines that are ended so and what follows the last.  The line at hand has begun with `begun`, whose
characters are in reverse. -/
def cutLines (begun : List Char) : List Char → List (List Char) × List Char
  | [] => ([], begun.reverse)
  | c :: rest =>
    if c = '\n' ∧ begun.head? ≠ some '\\' then
      (begun.reverse :: (cutLines [] rest).1, (cutLines [] rest).2)
    else cutLines (c :: begun) rest

/-- The lines of a text, and what follows the last. -/
def logicalLines (s : String) : List String × String :=
  ((cutLines [] s.toList).1.map String.ofList, String.ofList (cutLines [] s.toList).2)

/-! ## Lines -/

/-- Each newline directly follows a backslash, which for the first character is the one before the
list. -/
def Continued : Option Char → List Char → Prop
  | _, [] => True
  | before, c :: rest => (c = '\n' → before = some '\\') ∧ Continued (some c) rest

/-- A text that is one line, each newline in it continued. -/
structure LogicalLine (s : String) : Prop where
  continued : Continued none s.toList
  /-- Nor does it continue a newline behind it. -/
  closed : s.toList.getLast? ≠ some '\\'

/-- A text without newlines that does not end in a backslash. -/
structure PlainText (s : String) : Prop where
  oneLine : '\n' ∉ s.toList
  closed : s.toList.getLast? ≠ some '\\'

instance (s : String) : Decidable (PlainText s) :=
  decidable_of_iff ('\n' ∉ s.toList ∧ s.toList.getLast? ≠ some '\\')
    ⟨fun h => ⟨h.1, h.2⟩, fun h => ⟨h.1, h.2⟩⟩

namespace Continued

variable {before : Option Char} {cs : List Char}

theorem of_oneLine (h : '\n' ∉ cs) : Continued before cs := by
  induction cs generalizing before with
  | nil => trivial
  | cons c rest ih =>
      rw [List.mem_cons, not_or] at h
      exact ⟨fun hc => absurd hc.symm h.1, ih h.2⟩

/-- What needs no character before it does not mind one. -/
theorem behind (h : Continued none cs) : Continued before cs := by
  cases cs with
  | nil => trivial
  | cons c rest => exact ⟨fun hc => (nomatch h.1 hc), h.2⟩

theorem append {rest : List Char} (h : Continued before cs) (hrest : Continued none rest) :
    Continued before (cs ++ rest) := by
  induction cs generalizing before with
  | nil => exact hrest.behind
  | cons c cs ih => exact ⟨h.1, ih h.2⟩

end Continued

/-- A line that has begun and goes on to the next newline that is not continued. -/
theorem cutLines_append {begun cs : List Char} (hcs : Continued begun.head? cs)
    (hclosed : (begun.reverse ++ cs).getLast? ≠ some '\\') (rest : List Char) :
    cutLines begun (cs ++ '\n' :: rest) =
      ((begun.reverse ++ cs) :: (cutLines [] rest).1, (cutLines [] rest).2) := by
  induction cs generalizing begun with
  | nil =>
      rw [List.append_nil, List.getLast?_reverse] at hclosed
      rw [List.nil_append, cutLines, if_pos ⟨rfl, hclosed⟩, List.append_nil]
  | cons c cs ih =>
      -- a newline among these characters is continued, so none of them ends the line
      have hgoesOn : ¬ (c = '\n' ∧ begun.head? ≠ some '\\') := fun h => h.2 (hcs.1 h.1)
      have hnext : begun.reverse ++ c :: cs = (c :: begun).reverse ++ cs := by
        rw [List.reverse_cons, List.append_assoc, List.singleton_append]
      rw [hnext] at hclosed
      have hrest : cutLines (c :: begun) (cs ++ '\n' :: rest) = _ := ih hcs.2 hclosed
      rw [List.cons_append, cutLines, if_neg hgoesOn, hrest, hnext]

/-- Lines that are ended by a newline each are the lines of the whole, and nothing is left. -/
theorem logicalLines_join {lines : List String} (h : ∀ line ∈ lines, LogicalLine line) :
    logicalLines (String.join (lines.map (· ++ "\n"))) = (lines, "") := by
  have hcut : cutLines [] (String.join (lines.map (· ++ "\n"))).toList =
      (lines.map String.toList, []) := by
    induction lines with
    | nil => rfl
    | cons line rest ih =>
        rw [List.forall_mem_cons] at h
        have hfirst : (String.join ((line :: rest).map (· ++ "\n"))).toList =
            line.toList ++ '\n' :: (String.join (rest.map (· ++ "\n"))).toList := by
          simp
        have hline : Continued ([] : List Char).head? line.toList := h.1.continued
        rw [hfirst, cutLines_append hline h.1.closed, ih h.2]
        rfl
  rw [logicalLines, hcut, List.map_map]
  simp

/-! ## Putting together -/

theorem PlainText.logicalLine {s : String} (h : PlainText s) : LogicalLine s :=
  ⟨.of_oneLine h.oneLine, h.closed⟩

namespace LogicalLine

variable {s t : String}

theorem append (hs : LogicalLine s) (ht : LogicalLine t) : LogicalLine (s ++ t) := by
  refine ⟨?_, ?_⟩
  · rw [String.toList_append]
    exact hs.continued.append ht.continued
  · rw [String.toList_append, List.getLast?_append]
    have hclosed := ht.closed
    cases hlast : t.toList.getLast? with
    | none => exact hs.closed
    | some c =>
        rw [hlast] at hclosed
        exact hclosed

theorem empty : LogicalLine "" := (by decide : PlainText "").logicalLine

theorem space : LogicalLine " " := (by decide : PlainText " ").logicalLine

theorem keyValueDelimiter : LogicalLine Layout.keyValueDelimiter :=
  (by decide : PlainText Layout.keyValueDelimiter).logicalLine

theorem spaces (count : Nat) : LogicalLine (Layout.spaces count) := by
  have hblank : ∀ c ∈ (Layout.spaces count).toList, c = ' ' := by
    intro c hc
    rw [Layout.spaces, String.toList_ofList] at hc
    exact List.eq_of_mem_replicate hc
  refine ⟨.of_oneLine fun hmem => absurd (hblank _ hmem) (by decide), fun hlast => ?_⟩
  exact absurd (hblank _ (List.mem_of_getLast? hlast)) (by decide)

/-- A backslash, a newline and an indent continue a line. -/
theorem separator {spread : Layout.Spread} (h : spread.lineBreak = Layout.continuation) :
    LogicalLine spread.separator := by
  have hbreak : LogicalLine Layout.continuation := by
    refine ⟨?_, by decide⟩
    simp [Layout.continuation, Continued]
  rw [Layout.Spread.separator, h]
  exact hbreak.append (spaces spread.indent)

theorem wrapInQuotes (h : LogicalLine s) : LogicalLine (Layout.wrapInQuotes s) := by
  have hquote : LogicalLine "\"" := (by decide : PlainText "\"").logicalLine
  exact (hquote.append h).append hquote

theorem wrap {spread : Layout.Spread} (h : LogicalLine s) : LogicalLine (spread.wrap s) := by
  unfold Layout.Spread.wrap
  split
  · exact h.wrapInQuotes
  · exact h

theorem joinWith {separator : String} (hseparator : LogicalLine separator) {texts : List String}
    (h : ∀ s ∈ texts, LogicalLine s) : LogicalLine (Layout.joinWith separator texts) := by
  induction texts with
  | nil => exact empty
  | cons first rest ih =>
      rw [List.forall_mem_cons] at h
      cases rest with
      | nil => exact h.1
      | cons second rest => exact (h.1.append hseparator).append (ih h.2)

theorem joinPresent {delimiter : String} (hdelimiter : LogicalLine delimiter)
    {parts : List (Option String)} (h : ∀ s, some s ∈ parts → LogicalLine s) :
    LogicalLine (Layout.joinPresent delimiter parts) := by
  refine joinWith hdelimiter fun s hs => h s ?_
  obtain ⟨hs, -⟩ := List.mem_filter.mp hs
  obtain ⟨part, hmem, rfl⟩ := List.mem_filterMap.mp hs
  exact hmem

theorem joinPresent_pair {delimiter : String} (hdelimiter : LogicalLine delimiter)
    {first second : Option String} (hfirst : ∀ s, first = some s → LogicalLine s)
    (hsecond : ∀ s, second = some s → LogicalLine s) :
    LogicalLine (Layout.joinPresent delimiter [first, second]) := by
  refine joinPresent hdelimiter fun s hs => ?_
  simp only [List.mem_cons, List.not_mem_nil, or_false] at hs
  rcases hs with hs | hs
  · exact hfirst s hs.symm
  · exact hsecond s hs.symm

theorem joinItems {spread : Layout.Spread} (hbreak : spread.lineBreak = Layout.continuation)
    {items : List String} (h : ∀ s ∈ items, LogicalLine s) :
    LogicalLine (Layout.joinItems spread items) := by
  refine joinWith (separator hbreak) fun s hs => ?_
  obtain ⟨item, hitem, rfl⟩ := List.mem_map.mp hs
  exact (h item hitem).wrap

theorem joinPairs {spread : Layout.Spread} (hbreak : spread.lineBreak = Layout.continuation)
    {delimiter : String} (hdelimiter : LogicalLine delimiter) {pairs : List (String × String)}
    (h : ∀ p ∈ pairs, LogicalLine p.1 ∧ LogicalLine p.2) :
    LogicalLine (Layout.joinPairs spread delimiter pairs) := by
  refine joinWith (separator hbreak) fun s hs => ?_
  obtain ⟨pair, hpair, rfl⟩ := List.mem_map.mp hs
  exact ((h pair hpair).1.wrap.append hdelimiter).append (h pair hpair).2.wrap

end LogicalLine

end ImageRecipe.Text
