import ImageRecipe.Instruction.Pattern

/-!
# What patterns match

The forms of the patterns, written down as they read and without regard to how a text is taken
apart: a text matches if it can be cut into parts of the right form somehow.  Matching finds a cut
whenever there is one, since no part can go on where the next one begins.

* `Pattern.ImageForm`, `Pattern.AssignmentForm` : the forms
* `imageReference_match?_isSome_iff`, `assignment_match?_isSome_iff` : matching is having the form
* `splitReference?_sound`, `splitAssignment?_sound` : the parts of a match are all of the text
-/

namespace ImageRecipe

/-! ## Maximal prefixes -/

/-- The list does not go on with a character of the kind. -/
def StopsAt (p : Char → Bool) (cs : List Char) : Prop := ∀ c, cs.head? = some c → p c = false

theorem takeWhile_append_of_stop {p : Char → Bool} {cs rest : List Char}
    (kind : ∀ c ∈ cs, p c = true) (stop : StopsAt p rest) : (cs ++ rest).takeWhile p = cs := by
  rw [List.takeWhile_append_of_pos kind]
  cases rest with
  | nil => simp
  | cons c rest => simp [stop c rfl]

theorem dropWhile_append_of_stop {p : Char → Bool} {cs rest : List Char}
    (kind : ∀ c ∈ cs, p c = true) (stop : StopsAt p rest) : (cs ++ rest).dropWhile p = rest := by
  rw [List.dropWhile_append_of_pos kind]
  cases rest with
  | nil => rfl
  | cons c rest => simp [stop c rfl]

theorem forall_mem_takeWhile (p : Char → Bool) (cs : List Char) :
    ∀ c ∈ cs.takeWhile p, p c = true :=
  List.all_eq_true.mp List.all_takeWhile

namespace Pattern

/-! ## Image references -/

/-- Nothing, or a port with a path behind it. -/
def PortForm (cs : List Char) : Prop :=
  cs = [] ∨ ∃ digits path, cs = ':' :: (digits ++ '/' :: path) ∧
    digits ≠ [] ∧ (∀ c ∈ digits, c.isDigit = true) ∧
    path ≠ [] ∧ (∀ c ∈ path, isImageChar c = true)

/-- Nothing, or a delimiter and a tag or digest. -/
def TailForm (cs : List Char) : Prop :=
  cs = [] ∨ ∃ delimiter reference, cs = delimiter :: reference ∧
    (delimiter = ':' ∨ delimiter = '@') ∧
    reference ≠ [] ∧ (∀ c ∈ reference, isReferenceChar c = true)

/-- A name, perhaps with a port and a path, perhaps with a tag or digest. -/
def ImageForm (cs : List Char) : Prop :=
  ∃ host port tail, cs = host ++ (port ++ tail) ∧
    host ≠ [] ∧ (∀ c ∈ host, isImageChar c = true) ∧ PortForm port ∧ TailForm tail

theorem referenceTail?_isSome_iff {cs : List Char} :
    (referenceTail? cs).isSome = true ↔ TailForm cs := by
  cases cs with
  | nil => simp [referenceTail?, TailForm]
  | cons c rest =>
      by_cases h : (c == ':' || c == '@') && !rest.isEmpty && rest.all isReferenceChar
      · simp only [referenceTail?, h, if_true, Option.isSome_some, true_iff]
        simp only [Bool.and_eq_true, Bool.or_eq_true, beq_iff_eq, Bool.not_eq_true',
          List.isEmpty_eq_false_iff, List.all_eq_true] at h
        exact .inr ⟨c, rest, rfl, h.1.1, h.1.2, h.2⟩
      · simp only [referenceTail?, h, Bool.false_eq_true, if_false, Option.isSome_none, false_iff]
        rintro (hnil | ⟨delimiter, reference, heq, hdelimiter, hne, hall⟩)
        · cases hnil
        · cases heq
          refine h ?_
          simp only [Bool.and_eq_true, Bool.or_eq_true, beq_iff_eq, Bool.not_eq_true',
            List.isEmpty_eq_false_iff, List.all_eq_true]
          exact ⟨⟨hdelimiter, hne⟩, hall⟩

/-- A tail begins with a delimiter, so that no name goes on into it. -/
theorem TailForm.stops {cs : List Char} (h : TailForm cs) : StopsAt isImageChar cs := by
  rcases h with rfl | ⟨delimiter, reference, rfl, hdelimiter, -⟩
  · intro c hc
    cases hc
  · intro c hc
    cases hc
    rcases hdelimiter with rfl | rfl
    · decide
    · decide

/-- What is cut off as a port has the form of one. -/
theorem splitPort?_sound {cs port after : List Char} (h : splitPort? cs = some (port, after)) :
    cs = port ++ after ∧ PortForm port := by
  unfold splitPort? at h
  split at h
  · rename_i rest
    split at h
    · rename_i afterSlash hdrop
      dsimp only at h
      split at h
      · cases h
      · rename_i hne
        cases h
        simp only [Bool.or_eq_true, List.isEmpty_iff, not_or] at hne
        refine ⟨?_, .inr ⟨_, _, rfl, hne.1, forall_mem_takeWhile _ _, hne.2,
          forall_mem_takeWhile _ _⟩⟩
        have hrest : rest = rest.takeWhile Char.isDigit ++ '/' :: afterSlash := by
          rw [← hdrop, List.takeWhile_append_dropWhile]
        have hslash : afterSlash =
            afterSlash.takeWhile isImageChar ++ afterSlash.dropWhile isImageChar :=
          List.takeWhile_append_dropWhile.symm
        calc ':' :: rest
            = ':' :: (rest.takeWhile Char.isDigit ++ '/' :: afterSlash) := by rw [← hrest]
          _ = ':' :: (rest.takeWhile Char.isDigit ++ '/' ::
                (afterSlash.takeWhile isImageChar ++ afterSlash.dropWhile isImageChar)) := by
              rw [← hslash]
          _ = _ := by simp
    · cases h
  · cases h

/-- A port in front of a tail is cut off. -/
theorem splitPort?_complete {digits path tail : List Char} (hdigits : digits ≠ [])
    (digit : ∀ c ∈ digits, c.isDigit = true) (hpath : path ≠ [])
    (image : ∀ c ∈ path, isImageChar c = true) (stop : StopsAt isImageChar tail) :
    splitPort? (':' :: (digits ++ '/' :: path) ++ tail) =
      some (':' :: (digits ++ '/' :: path), tail) := by
  have hslash : StopsAt Char.isDigit ('/' :: (path ++ tail)) := by
    intro c hc
    cases hc
    decide
  have htake : (digits ++ '/' :: (path ++ tail)).takeWhile Char.isDigit = digits :=
    takeWhile_append_of_stop digit hslash
  have hdrop : (digits ++ '/' :: (path ++ tail)).dropWhile Char.isDigit = '/' :: (path ++ tail) :=
    dropWhile_append_of_stop digit hslash
  simp only [splitPort?, List.cons_append, List.append_assoc, hdrop, htake,
    takeWhile_append_of_stop image stop, dropWhile_append_of_stop image stop]
  simp [hdigits, hpath]

/-- A reference is cut exactly where its form allows a cut. -/
theorem splitReference?_isSome_iff {cs : List Char} :
    (splitReference? cs).isSome = true ↔ ImageForm cs := by
  constructor
  · intro h
    have hcut : cs = cs.takeWhile isImageChar ++ cs.dropWhile isImageChar :=
      List.takeWhile_append_dropWhile.symm
    simp only [splitReference?] at h
    split at h
    · cases h
    · rename_i hhost
      rw [List.isEmpty_iff] at hhost
      have plain : (referenceTail? (cs.dropWhile isImageChar)).isSome = true → ImageForm cs :=
        fun htail => ⟨_, [], _, hcut, hhost, forall_mem_takeWhile _ _, .inl rfl,
          referenceTail?_isSome_iff.mp htail⟩
      split at h
      · exact plain (by simpa using h)
      · rename_i port after hport
        split at h
        · rename_i tail htail
          obtain ⟨hrest, hform⟩ := splitPort?_sound hport
          refine ⟨_, port, after, hrest ▸ hcut, hhost, forall_mem_takeWhile _ _, hform, ?_⟩
          exact referenceTail?_isSome_iff.mp (by rw [htail]; rfl)
        · exact plain (by simpa using h)
  · rintro ⟨host, port, tail, rfl, hhost, image, hport, htail⟩
    have stop : StopsAt isImageChar (port ++ tail) := by
      rcases hport with rfl | ⟨digits, path, rfl, -⟩
      · exact htail.stops
      · intro c hc
        cases hc
        decide
    simp only [splitReference?, takeWhile_append_of_stop image stop,
      dropWhile_append_of_stop image stop, List.isEmpty_iff, hhost, if_false]
    have htail' := referenceTail?_isSome_iff.mpr htail
    rcases hport with rfl | ⟨digits, path, rfl, hdigits, digit, hpath, hpath'⟩
    · -- the tail may itself begin like a port, but it can always be taken as the tail
      have plain : ((referenceTail? tail).map (host, ·)).isSome = true := by simpa using htail'
      rw [List.nil_append]
      cases splitPort? tail with
      | none => exact plain
      | some cut =>
          obtain ⟨port, after⟩ := cut
          simp only
          cases referenceTail? after with
          | none => exact plain
          | some tail => rfl
    · rw [splitPort?_complete hdigits digit hpath hpath' htail.stops]
      obtain ⟨made, hmade⟩ := Option.isSome_iff_exists.mp htail'
      simp [hmade]

/-- The characters of a tail. -/
def tailChars : Option (Char × List Char) → List Char
  | none => []
  | some (delimiter, reference) => delimiter :: reference

theorem referenceTail?_sound {cs : List Char} {tail : Option (Char × List Char)}
    (h : referenceTail? cs = some tail) :
    cs = tailChars tail ∧ ∀ cut ∈ tail, cut.2 ≠ [] := by
  cases cs with
  | nil =>
      cases h
      exact ⟨rfl, nofun⟩
  | cons c rest =>
      simp only [referenceTail?] at h
      split at h
      · rename_i hform
        cases h
        simp only [Bool.and_eq_true, Bool.not_eq_true', List.isEmpty_eq_false_iff] at hform
        refine ⟨rfl, fun cut hcut => ?_⟩
        cases hcut
        exact hform.1.2
      · cases h

/-- The parts of a reference are all of it, in their order. -/
theorem splitReference?_sound {cs image : List Char} {tail : Option (Char × List Char)}
    (h : splitReference? cs = some (image, tail)) :
    cs = image ++ tailChars tail ∧ image ≠ [] ∧ ∀ cut ∈ tail, cut.2 ≠ [] := by
  have hcut : cs = cs.takeWhile isImageChar ++ cs.dropWhile isImageChar :=
    List.takeWhile_append_dropWhile.symm
  simp only [splitReference?] at h
  split at h
  · cases h
  · rename_i hhost
    rw [List.isEmpty_iff] at hhost
    have plain : (referenceTail? (cs.dropWhile isImageChar)).map (cs.takeWhile isImageChar, ·) =
          some (image, tail) →
        cs = image ++ tailChars tail ∧ image ≠ [] ∧ ∀ cut ∈ tail, cut.2 ≠ [] := by
      intro hplain
      obtain ⟨tail', htail, heq⟩ := Option.map_eq_some_iff.mp hplain
      cases heq
      obtain ⟨hrest, hne⟩ := referenceTail?_sound htail
      exact ⟨hrest ▸ hcut, hhost, hne⟩
    split at h
    · exact plain h
    · rename_i port after hport
      split at h
      · rename_i tail' htail
        cases h
        obtain ⟨hrest, hne⟩ := referenceTail?_sound htail
        refine ⟨?_, fun hnil => hhost (List.append_eq_nil_iff.mp hnil).1, hne⟩
        rw [List.append_assoc, ← hrest, ← (splitPort?_sound hport).1]
        exact hcut
      · exact plain h

theorem imageReference_match?_isSome_iff {s : String} :
    (imageReference.match? s).isSome = true ↔ ImageForm s.toList := by
  simp only [imageReference, Option.isSome_map, splitReference?_isSome_iff]

/-! ## Assignments -/

/-- A name of the style. -/
def NameForm (style : NameStyle) (cs : List Char) : Prop :=
  ∃ first rest, cs = first :: rest ∧ style.isFirst first = true ∧
    ∀ c ∈ rest, style.isNext c = true

/-- Whatever may open a name may follow in one. -/
theorem NameForm.forall_isNext {style : NameStyle} {cs : List Char} (h : NameForm style cs) :
    ∀ c ∈ cs, style.isNext c = true := by
  obtain ⟨first, rest, rfl, hfirst, hnext⟩ := h
  rw [List.forall_mem_cons]
  refine ⟨?_, hnext⟩
  cases style with
  | identifier =>
      simp only [NameStyle.isFirst] at hfirst
      simp only [NameStyle.isNext, hfirst, Bool.true_or]
  | lowercase => exact hfirst

/-- A name, perhaps with a default that stays on one line. -/
def AssignmentForm (style : NameStyle) (cs : List Char) : Prop :=
  ∃ name tail, cs = name ++ tail ∧ NameForm style name ∧
    (tail = [] ∨ ∃ value, tail = '=' :: value ∧ '\n' ∉ value)

/-- A name is cut off in front of anything that it cannot go on into. -/
theorem NameForm.split_append {style : NameStyle} {name tail : List Char}
    (h : NameForm style name) (stop : StopsAt style.isNext tail) :
    style.split (name ++ tail) = (name, tail) := by
  obtain ⟨first, rest, rfl, hfirst, hnext⟩ := h
  rw [List.cons_append, NameStyle.split, if_pos hfirst, takeWhile_append_of_stop hnext stop,
    dropWhile_append_of_stop hnext stop]

theorem NameForm.ne_nil {style : NameStyle} {name : List Char} (h : NameForm style name) :
    name ≠ [] := by
  obtain ⟨first, rest, rfl, -⟩ := h
  exact List.cons_ne_nil first rest

theorem splitAssignment?_name {style : NameStyle} {name : List Char} (h : NameForm style name) :
    splitAssignment? style name = some (name, none) := by
  have hsplit : style.split (name ++ []) = (name, []) := h.split_append nofun
  rw [List.append_nil] at hsplit
  simp only [splitAssignment?, hsplit, List.isEmpty_iff, h.ne_nil, if_false]

/-- The sign that ends the name is the first one, whatever signs the default has. -/
theorem splitAssignment?_default {style : NameStyle} {name value : List Char}
    (h : NameForm style name) (hvalue : '\n' ∉ value) :
    splitAssignment? style (name ++ '=' :: value) = some (name, some value) := by
  have stop : StopsAt style.isNext ('=' :: value) := by
    intro c hc
    cases hc
    cases style <;> decide
  have hline : value.all (· != '\n') = true :=
    List.all_eq_true.mpr fun c hc => bne_iff_ne.mpr fun heq => hvalue (heq ▸ hc)
  simp only [splitAssignment?, h.split_append stop, List.isEmpty_iff, h.ne_nil, if_false, hline,
    and_self, if_true]

/-- Name and default are all of an assignment but the sign between them, and the default stays on
one line. -/
theorem splitAssignment?_sound {style : NameStyle} {cs name : List Char}
    {value : Option (List Char)} (h : splitAssignment? style cs = some (name, value)) :
    NameForm style name ∧
      cs = name ++ (match value with | none => [] | some value => '=' :: value) ∧
      ∀ v ∈ value, '\n' ∉ v := by
  cases cs with
  | nil => cases h
  | cons c rest =>
      by_cases hfirst : style.isFirst c = true
      · have hcut : rest = rest.takeWhile style.isNext ++ rest.dropWhile style.isNext :=
          List.takeWhile_append_dropWhile.symm
        have hname : NameForm style (c :: rest.takeWhile style.isNext) :=
          ⟨c, _, rfl, hfirst, forall_mem_takeWhile _ _⟩
        simp only [splitAssignment?, NameStyle.split, hfirst, if_true, List.isEmpty_cons,
          Bool.false_eq_true, if_false] at h
        split at h
        · rename_i hdrop
          cases h
          rw [hdrop] at hcut
          exact ⟨hname, congrArg (c :: ·) hcut, nofun⟩
        · rename_i d after hdrop
          split at h
          · rename_i hd
            cases h
            rw [hdrop, hd.1] at hcut
            refine ⟨hname, congrArg (c :: ·) hcut, ?_⟩
            rintro v hv hmem
            cases hv
            exact absurd (List.all_eq_true.mp hd.2 _ hmem) (by decide)
          · cases h
      · simp only [splitAssignment?, NameStyle.split, hfirst, Bool.false_eq_true, if_false,
          List.isEmpty_nil, if_true] at h
        cases h

theorem splitAssignment?_isSome_iff {style : NameStyle} {cs : List Char} :
    (splitAssignment? style cs).isSome = true ↔ AssignmentForm style cs := by
  constructor
  · intro h
    obtain ⟨⟨name, value⟩, hsplit⟩ := Option.isSome_iff_exists.mp h
    obtain ⟨hname, hparts, hline⟩ := splitAssignment?_sound hsplit
    refine ⟨name, _, hparts, hname, ?_⟩
    cases value with
    | none => exact .inl rfl
    | some value => exact .inr ⟨value, rfl, hline value rfl⟩
  · rintro ⟨name, tail, rfl, hname, rfl | ⟨value, rfl, hvalue⟩⟩
    · rw [List.append_nil, splitAssignment?_name hname]
      rfl
    · rw [splitAssignment?_default hname hvalue]
      rfl

theorem assignment_match?_isSome_iff {style : NameStyle} {s : String} :
    ((assignment style).match? s).isSome = true ↔ AssignmentForm style s.toList := by
  simp only [assignment, Option.isSome_map, splitAssignment?_isSome_iff]

end Pattern

end ImageRecipe
