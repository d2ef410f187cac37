import ImageRecipe.Proofs.Instruction.Builtin

/-!
# Images given as texts

A colon in the text of an image may open a port or a tag, so the same text can seem to be made of
different parts.  Which parts it is made of is said here by longest runs of characters, without
trying one way after the other: a text is accepted if what follows its host can be read at all, and
a port is taken wherever one can be.

* `Pattern.HasPort` : a port and a path, as long as it can be
* `Pattern.splitReference?_of_port`, `Pattern.splitReference?_of_noPort` : the two ways to be cut
* `Pattern.CutsImage` : what the captures of a text are
* `line_imageText` : the line of a text, or why there is none
* `image_text_grammar` : which texts are accepted, and what becomes of them
-/

namespace ImageRecipe

open Converter (builtin)

/-! ## Ports -/

/-- What is left behind the longest run does not go on with it. -/
theorem stopsAt_dropWhile (p : Char → Bool) (cs : List Char) : StopsAt p (cs.dropWhile p) := by
  intro c hc
  have hnot := List.head?_dropWhile_not p cs
  rw [hc] at hnot
  exact hnot

namespace Pattern

variable {cs port after : List Char}

/-- A colon, digits, a slash and a path that is as long as it can be stand in front of the rest. -/
structure HasPort (cs port after : List Char) : Prop where
  whole : cs = port ++ after
  form : ∃ digits path, port = ':' :: (digits ++ '/' :: path) ∧
    digits ≠ [] ∧ (∀ c ∈ digits, c.isDigit = true) ∧
    path ≠ [] ∧ ∀ c ∈ path, isImageChar c = true
  longest : StopsAt isImageChar after

/-- What is cut off as a port is one. -/
theorem HasPort.of_splitPort? (h : splitPort? cs = some (port, after)) : HasPort cs port after := by
  obtain ⟨hwhole, hform⟩ := splitPort?_sound h
  have hne : port ≠ [] ∧ StopsAt isImageChar after := by
    unfold splitPort? at h
    split at h
    · split at h
      · dsimp only at h
        split at h
        · cases h
        · cases h
          exact ⟨List.cons_ne_nil _ _, stopsAt_dropWhile _ _⟩
      · cases h
    · cases h
  exact ⟨hwhole, hform.resolve_left hne.1, hne.2⟩

theorem splitPort?_eq_some_iff : splitPort? cs = some (port, after) ↔ HasPort cs port after := by
  constructor
  · exact HasPort.of_splitPort?
  · rintro ⟨rfl, ⟨digits, path, rfl, hdigits, digit, hpath, image⟩, longest⟩
    exact splitPort?_complete hdigits digit hpath image longest

/-! ## Cuts -/

/-- Where a port can be followed by a tail, it belongs to the image. -/
theorem splitReference?_of_port (hhost : cs.takeWhile isImageChar ≠ [])
    (hport : HasPort (cs.dropWhile isImageChar) port after) (htail : TailForm after) :
    ∃ tail, splitReference? cs = some (cs.takeWhile isImageChar ++ port, tail) := by
  obtain ⟨tail, hsome⟩ := Option.isSome_iff_exists.mp (referenceTail?_isSome_iff.mpr htail)
  refine ⟨tail, ?_⟩
  simp only [splitReference?, List.isEmpty_iff, hhost, if_false,
    splitPort?_eq_some_iff.mpr hport, hsome]

/-- Where it cannot, the image is the host alone, and the tail follows at once. -/
theorem splitReference?_of_noPort (hhost : cs.takeWhile isImageChar ≠ [])
    (hnone : ∀ port after, HasPort (cs.dropWhile isImageChar) port after → ¬TailForm after) :
    splitReference? cs =
      (referenceTail? (cs.dropWhile isImageChar)).map (cs.takeWhile isImageChar, ·) := by
  simp only [splitReference?, List.isEmpty_iff, hhost, if_false]
  cases hsplit : splitPort? (cs.dropWhile isImageChar) with
  | none => rfl
  | some cut =>
      obtain ⟨port, after⟩ := cut
      have hnot := hnone port after (splitPort?_eq_some_iff.mp hsplit)
      cases htail : referenceTail? after with
      | none => simp only [htail]
      | some tail => exact absurd (referenceTail?_isSome_iff.mp (by rw [htail]; rfl)) hnot

/-- A text can be cut if there is a host and something that can be read behind it. -/
theorem splitReference?_isSome_iff_behind_host :
    (splitReference? cs).isSome = true ↔ cs.takeWhile isImageChar ≠ [] ∧
      (TailForm (cs.dropWhile isImageChar) ∨
        ∃ port after, HasPort (cs.dropWhile isImageChar) port after ∧ TailForm after) := by
  by_cases hhost : cs.takeWhile isImageChar = []
  · simp [splitReference?, hhost]
  by_cases hport : ∃ port after, HasPort (cs.dropWhile isImageChar) port after ∧ TailForm after
  · obtain ⟨port, after, hhas, htail⟩ := hport
    obtain ⟨tail, hsplit⟩ := splitReference?_of_port hhost hhas htail
    rw [hsplit]
    exact iff_of_true rfl ⟨hhost, .inr ⟨port, after, hhas, htail⟩⟩
  · have hnone : ∀ port after, HasPort (cs.dropWhile isImageChar) port after → ¬TailForm after :=
      fun port after hhas htail => hport ⟨port, after, hhas, htail⟩
    rw [splitReference?_of_noPort hhost hnone, Option.isSome_map, referenceTail?_isSome_iff]
    simp only [hport, or_false, ne_eq, hhost, not_false_eq_true, true_and]

theorem imageReference_isSome_iff {s : String} :
    (imageReference.match? s).isSome = true ↔ s.toList.takeWhile isImageChar ≠ [] ∧
      (TailForm (s.toList.dropWhile isImageChar) ∨
        ∃ port after, HasPort (s.toList.dropWhile isImageChar) port after ∧ TailForm after) := by
  rw [imageReference, Option.isSome_map]
  exact splitReference?_isSome_iff_behind_host

/-- The captures of an image text: put together they are the text, and the image among them goes
as far as a port that can be followed by a tail, or else as far as the host. -/
structure CutsImage (s : String) (captures : Captures) : Prop where
  whole : (captures.get? "image").getD "" ++ (captures.get? "delimiter").getD "" ++
    (captures.get? "reference").getD "" = s
  withPort : ∀ port after, HasPort (s.toList.dropWhile isImageChar) port after → TailForm after →
    captures.get? "image" = some (String.ofList (s.toList.takeWhile isImageChar ++ port))
  withoutPort : (∀ port after, HasPort (s.toList.dropWhile isImageChar) port after →
      ¬TailForm after) →
    captures.get? "image" = some (String.ofList (s.toList.takeWhile isImageChar))

theorem cutsImage_of_match? {s : String} {captures : Captures}
    (h : imageReference.match? s = some captures) : CutsImage s captures := by
  obtain ⟨⟨image, tail⟩, hsplit, hcaptures⟩ := Option.map_eq_some_iff.mp h
  obtain ⟨hparts, -, -⟩ := splitReference?_sound hsplit
  have hhost : s.toList.takeWhile isImageChar ≠ [] :=
    (splitReference?_isSome_iff_behind_host.mp (by rw [hsplit]; rfl)).1
  have himage : captures.get? "image" = some (String.ofList image) := by
    rw [← hcaptures]
    cases tail <;> rfl
  constructor
  · apply String.toList_inj.mp
    rw [hparts, ← hcaptures]
    cases tail with
    | none => simp [Captures.get?, tailChars]
    | some cut => simp [Captures.get?, tailChars]
  · intro port after hport htail
    obtain ⟨other, hcut⟩ := splitReference?_of_port hhost hport htail
    rw [hsplit] at hcut
    cases hcut
    exact himage
  · intro hnone
    rw [splitReference?_of_noPort hhost hnone] at hsplit
    obtain ⟨other, -, hcut⟩ := Option.map_eq_some_iff.mp hsplit
    cases hcut
    exact himage

end Pattern

/-! ## Lines -/

/-- The handler of image texts asks for a text of the form of an image, and its body puts the text
together again. -/
theorem exists_imageText_handler : ∃ h ∈ builtinHandlers, h.key = .of "FROM" .string ∧
    h.usage = Usage.imageText ∧ h.body = .imageText ∧
    h.constraints = [.required "image" .string, .pattern "image" .imageReference] :=
  ⟨_, List.mem_cons_self, rfl, rfl, rfl, rfl⟩

/-- The line of an image text is the text itself, if the constraints let it through. -/
theorem line_imageText {h : Handler} (hmem : h ∈ builtinHandlers)
    (hkey : h.key = .of "FROM" .string) (hbody : h.body = .imageText)
    (hc : h.constraints = [.required "image" .string, .pattern "image" .imageReference])
    (s : String) :
    builtin.line "FROM" (.string s) = (h.validate (.string s)).map fun _ => "FROM " ++ s := by
  have hinstruction : h.instruction = "FROM" := congrArg HandlerKey.instruction hkey
  have hname : h.name = Text.asciiUpper "FROM" :=
    (builtinHandlers_instruction h hmem).symm.trans hinstruction
  have hshape : (Value.string s).shape? = some h.shape :=
    congrArg (some ∘ HandlerKey.shape) hkey.symm
  rw [Converter.builtin_line_of_mem hmem hname hshape]
  cases hvalid : h.validate (.string s) with
  | error e => rfl
  | ok captures =>
      obtain ⟨text, groups, htext, hmatch, rfl⟩ := Converter.match_of_validate hc hvalid
      cases htext
      rw [hbody]
      dsimp only
      have htext : builtin.carryOut (Body.imageText (h.callFor (.string s) (some groups))) = .ok s :=
        Converter.imageText_eq hmatch rfl
      rw [htext]
      exact congrArg (fun name => Except.ok (name ++ " " ++ s)) hinstruction

open Pattern in
/-- Let the host of a text be its longest run of characters other than white space, colons and at
signs.  The text is accepted as an image if and only if there is a host and what follows it, at once
or behind a port and a path, is nothing or a tag or digest.  Then its line is the text, and so are
the captures, one behind the other, with a port in the image wherever one can be.  If it is not
accepted, it is empty, or its form is not that of an image. -/
theorem image_text_grammar (s : String) :
    ((∃ line, builtin.line "FROM" (.string s) = .ok line) ↔
      s.toList.takeWhile isImageChar ≠ [] ∧
        (TailForm (s.toList.dropWhile isImageChar) ∨
          ∃ port after, HasPort (s.toList.dropWhile isImageChar) port after ∧ TailForm after)) ∧
    (∀ line, builtin.line "FROM" (.string s) = .ok line →
      line = "FROM " ++ s ∧
        ∃ h ∈ builtinHandlers, h.key = .of "FROM" .string ∧
          ∃ captures, h.validate (.string s) = .ok (some captures) ∧ CutsImage s captures) ∧
    ∀ e, builtin.line "FROM" (.string s) = .error e →
      e = if s = "" then .argumentMissing "FROM" "image" Usage.imageText
        else .patternMismatch "FROM" "image" s imageReference.source := by
  obtain ⟨h, hmem, hkey, husage, hbody, hc⟩ := exists_imageText_handler
  have hinstruction : h.instruction = "FROM" := congrArg HandlerKey.instruction hkey
  have hline := line_imageText hmem hkey hbody hc s
  have hvalid := Converter.validate_pattern (s := s) hc
  rw [hinstruction, husage] at hvalid
  rw [← imageReference_isSome_iff]
  by_cases hs : s = ""
  · subst hs
    rw [if_pos rfl] at hvalid ⊢
    rw [hline, hvalid]
    refine ⟨iff_of_false (by rintro ⟨line, ⟨⟩⟩) (by decide), by rintro line ⟨⟩, ?_⟩
    rintro e ⟨⟩
    rfl
  rw [if_neg hs] at hvalid ⊢
  rw [hline]
  cases hmatch : imageReference.match? s with
  | none =>
      rw [hmatch] at hvalid
      rw [hvalid]
      refine ⟨iff_of_false (by rintro ⟨line, ⟨⟩⟩) (by simp), by rintro line ⟨⟩, ?_⟩
      rintro e ⟨⟩
      rfl
  | some captures =>
      rw [hmatch] at hvalid
      rw [hvalid]
      refine ⟨iff_of_true ⟨_, rfl⟩ rfl, ?_, by rintro e ⟨⟩⟩
      rintro line ⟨⟩
      exact ⟨rfl, h, hmem, hkey, captures, hvalid, cutsImage_of_match? hmatch⟩

end ImageRecipe
