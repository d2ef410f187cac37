import ImageRecipe.Layout

/-!
# Physical lines

Entries that are spread over lines stand behind a margin, the first one behind a name and the others
behind as many spaces, and all lines but the last end in a continuation.  As long as there is no
newline in an entry, cutting the text at its newlines gives these lines, whatever else the entries
hold, and the entries are what is left of them.

* `physicalLines` : a text cut at its newlines
* `laidLines` : the lines of entries, one by one
* `stripped` : lines without margins and continuations
* `LaidOut` : what is said of the lines of entries
* `laidOut_physicalLines` : texts that are spread over lines are laid out so
-/

namespace ImageRecipe.Text

/-- The text between its newlines. -/
def physicalLines (s : String) : List String := (s.toList.splitOn '\n').map String.ofList

/-- The lines of entries, the first of which stands behind the margin and the others behind the
indent; each but the last is continued. -/
def laidLines (indent : Nat) (margin : String) : List String → List String
  | [] => []
  | [last] => [margin ++ last]
  | entry :: next :: rest =>
    (margin ++ entry ++ " \\") :: laidLines indent (Layout.spaces indent) (next :: rest)

/-- The lines without as many characters in front, and all but the last without the two that
continue it. -/
def stripped (indent : Nat) : List String → List String
  | [] => []
  | [last] => [String.ofList (last.toList.drop indent)]
  | line :: next :: rest =>
    String.ofList (line.toList.drop indent).dropLast.dropLast :: stripped indent (next :: rest)

/-- The entries stand on the lines one by one, behind the name or as many spaces, and all lines but
the last are continued. -/
structure LaidOut (name : String) (entries lines : List String) : Prop where
  count : lines.length = entries.length
  first : ∀ line, lines.head? = some line → (name ++ " ").toList <+: line.toList
  later : ∀ line ∈ lines.tail, List.replicate (name.length + 1) ' ' <+: line.toList
  continued : ∀ line ∈ lines.dropLast, [' ', '\\'] <:+ line.toList
  entries : stripped (name.length + 1) lines = entries

/-! ## Cutting -/

theorem toList_joinWith (separator : String) (texts : List String) :
    (Layout.joinWith separator texts).toList =
      separator.toList.intercalate (texts.map String.toList) := by
  induction texts with
  | nil => rfl
  | cons first rest ih =>
      cases rest with
      | nil => simp [Layout.joinWith]
      | cons second rest =>
          rw [Layout.joinWith, String.toList_append, String.toList_append, ih]
          simp

/-- Lines that are joined by newlines are found again. -/
theorem physicalLines_joinWith {lines : List String} (hne : lines ≠ [])
    (h : ∀ line ∈ lines, '\n' ∉ line.toList) :
    physicalLines (Layout.joinWith "\n" lines) = lines := by
  have hlines : ∀ cs ∈ lines.map String.toList, '\n' ∉ cs := by
    intro cs hcs
    obtain ⟨line, hline, rfl⟩ := List.mem_map.mp hcs
    exact h line hline
  have hcut : (Layout.joinWith "\n" lines).toList.splitOn '\n' = lines.map String.toList := by
    rw [toList_joinWith]
    exact List.splitOn_intercalate '\n' hlines (by simpa using hne)
  rw [physicalLines, hcut, List.map_map]
  simp

/-! ## Lines of entries -/

variable {indent : Nat} {margin : String} {entries : List String}

theorem length_laidLines (indent : Nat) (margin : String) (entries : List String) :
    (laidLines indent margin entries).length = entries.length := by
  induction entries generalizing margin with
  | nil => rfl
  | cons entry rest ih =>
      cases rest with
      | nil => rfl
      | cons next rest => rw [laidLines, List.length_cons, ih, List.length_cons]; rfl

theorem laidLines_ne_nil (indent : Nat) (margin : String) (h : entries ≠ []) :
    laidLines indent margin entries ≠ [] := by
  rw [← List.length_pos_iff] at h ⊢
  rwa [length_laidLines]

theorem joinWith_cons (separator first : String) {rest : List String} (h : rest ≠ []) :
    Layout.joinWith separator (first :: rest) =
      first ++ separator ++ Layout.joinWith separator rest := by
  obtain ⟨second, rest, rfl⟩ := List.exists_cons_of_ne_nil h
  rfl

theorem stripped_cons (indent : Nat) (line : String) {lines : List String} (h : lines ≠ []) :
    stripped indent (line :: lines) =
      String.ofList (line.toList.drop indent).dropLast.dropLast :: stripped indent lines := by
  obtain ⟨next, rest, rfl⟩ := List.exists_cons_of_ne_nil h
  rfl

/-- Entries with a continuation and an indent between them are their lines with newlines between
them. -/
theorem joinWith_laidLines (indent : Nat) (margin : String) (h : entries ≠ []) :
    margin ++ Layout.joinWith (Layout.continuation ++ Layout.spaces indent) entries =
      Layout.joinWith "\n" (laidLines indent margin entries) := by
  -- behind the first entry the indent takes the place of the margin
  induction entries generalizing margin with
  | nil => exact absurd rfl h
  | cons entry rest ih =>
      cases rest with
      | nil => rfl
      | cons next rest =>
          have hnext : next :: rest ≠ [] := List.cons_ne_nil next rest
          rw [Layout.joinWith, laidLines, joinWith_cons _ _ (laidLines_ne_nil _ _ hnext),
            ← ih (Layout.spaces indent) hnext]
          simp [Layout.continuation, String.append_assoc]

theorem oneLine_laidLines (indent : Nat) (hmargin : '\n' ∉ margin.toList)
    (h : ∀ entry ∈ entries, '\n' ∉ entry.toList) :
    ∀ line ∈ laidLines indent margin entries, '\n' ∉ line.toList := by
  induction entries generalizing margin with
  | nil => exact nofun
  | cons entry rest ih =>
      rw [List.forall_mem_cons] at h
      cases rest with
      | nil => simp [laidLines, hmargin, h.1]
      | cons next rest =>
          rw [laidLines, List.forall_mem_cons]
          refine ⟨by simp [hmargin, h.1], ih ?_ h.2⟩
          simp [Layout.spaces]

/-- Without the first one, the lines are those of the other entries behind the indent. -/
theorem tail_laidLines (indent : Nat) (margin : String) (entries : List String) :
    (laidLines indent margin entries).tail =
      laidLines indent (Layout.spaces indent) entries.tail := by
  cases entries with
  | nil => rfl
  | cons entry rest => cases rest <;> rfl

theorem margin_prefix_laidLines {line : String}
    (h : (laidLines indent margin entries).head? = some line) : margin.toList <+: line.toList := by
  cases entries with
  | nil => cases h
  | cons entry rest =>
      cases rest with
      | nil =>
          cases h
          rw [String.toList_append]
          exact List.prefix_append _ _
      | cons next rest =>
          cases h
          rw [String.append_assoc, String.toList_append]
          exact List.prefix_append _ _

theorem indent_prefix_laidLines (indent : Nat) (entries : List String) :
    ∀ line ∈ laidLines indent (Layout.spaces indent) entries,
      List.replicate indent ' ' <+: line.toList := by
  induction entries with
  | nil => exact nofun
  | cons entry rest ih =>
      have hspaces : (Layout.spaces indent).toList = List.replicate indent ' ' :=
        String.toList_ofList
      rw [← List.cons_head_tail (laidLines_ne_nil indent _ (List.cons_ne_nil entry rest)),
        List.forall_mem_cons, tail_laidLines]
      refine ⟨?_, ih⟩
      rw [← hspaces]
      exact margin_prefix_laidLines (List.head?_eq_some_head _)

theorem continued_laidLines (indent : Nat) (margin : String) (entries : List String) :
    ∀ line ∈ (laidLines indent margin entries).dropLast, [' ', '\\'] <:+ line.toList := by
  induction entries generalizing margin with
  | nil => exact nofun
  | cons entry rest ih =>
      cases rest with
      | nil => exact nofun
      | cons next rest =>
          have hlines := laidLines_ne_nil indent (Layout.spaces indent) (List.cons_ne_nil next rest)
          rw [laidLines, List.dropLast_cons_of_ne_nil hlines, List.forall_mem_cons]
          refine ⟨?_, ih _⟩
          rw [String.toList_append]
          exact List.suffix_append _ _

/-- What is left of the lines is the entries, if the margin is as wide as the indent. -/
theorem stripped_laidLines (hmargin : margin.length = indent) :
    stripped indent (laidLines indent margin entries) = entries := by
  induction entries generalizing margin with
  | nil => rfl
  | cons entry rest ih =>
      -- cutting by width never looks at the entry, so it may begin or end in whatever it likes
      subst hmargin
      have hdrop : ∀ s : String, (margin ++ s).toList.drop margin.length = s.toList := by
        intro s
        rw [String.toList_append, ← String.length_toList, List.drop_left]
      cases rest with
      | nil => rw [laidLines, stripped, hdrop, String.ofList_toList]
      | cons next rest =>
          have hspaces : (Layout.spaces margin.length).length = margin.length := by
            simp [Layout.spaces]
          rw [laidLines, stripped_cons _ _ (laidLines_ne_nil _ _ (List.cons_ne_nil next rest)),
            ih hspaces, String.append_assoc, hdrop]
          simp

/-- The lines of entries are laid out as such. -/
theorem laidOut_laidLines (name : String) (entries : List String) :
    LaidOut name entries (laidLines (name.length + 1) (name ++ " ") entries) where
  count := length_laidLines _ _ _
  first _ hline := margin_prefix_laidLines hline
  later := by
    rw [tail_laidLines]
    exact indent_prefix_laidLines _ _
  continued := continued_laidLines _ _ _
  entries := stripped_laidLines (by rw [String.length_append]; rfl)

/-- A text of entries that are spread over lines has them laid out on its lines, if there is no
newline in an entry. -/
theorem laidOut_physicalLines {name : String} (hname : '\n' ∉ name.toList) (hne : entries ≠ [])
    (h : ∀ entry ∈ entries, '\n' ∉ entry.toList) :
    LaidOut name entries (physicalLines (name ++ " " ++
      Layout.joinWith (Layout.continuation ++ Layout.spaces (name.length + 1)) entries)) := by
  have hmargin : '\n' ∉ (name ++ " ").toList := by simp [hname]
  rw [joinWith_laidLines _ _ hne, physicalLines_joinWith (laidLines_ne_nil _ _ hne)
    (oneLine_laidLines _ hmargin h)]
  exact laidOut_laidLines name entries

end ImageRecipe.Text
