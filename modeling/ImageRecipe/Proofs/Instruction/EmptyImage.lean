import ImageRecipe.Proofs.Instruction.ImageMapping

/-!
# Images whose name is empty

A mapping has to have an image, and that has to be a string, but it may be the empty one.  Parts of
a line that are empty are left out, so that the tag, the digest or the alias then comes to stand
where the image should be.

* `Mapping.standIn`, `Mapping.imagelessLine` : the line that an empty image leaves
* `image_named_unless_empty` : the lines of all mappings, and which of them name an image
* `tag_in_place_of_image` : a tag that is read as an image
-/

namespace ImageRecipe

open Converter (builtin)

namespace Mapping

variable (m : Mapping Value)

/-- What comes to stand in the place of an empty image: the tag, or else the digest. -/
def standIn : String :=
  if m.tagText ≠ "" then m.tagText else (Body.textUnder m "digest").getD ""

/-- The line of an empty image: its platform, its tag or digest, and its alias, those that there
are with a space between each two. -/
def imagelessLine : String :=
  "FROM " ++ Layout.joinWith " "
    (((Body.textUnder m "platform").map ("--platform=" ++ ·)).toList ++
      (if m.standIn = "" then [] else [m.standIn]) ++
        ((Body.textUnder m "alias").map ("AS " ++ ·)).toList)

end Mapping

/-! ## Parts that are left out -/

namespace Layout

/-- An empty part in front leaves what stands behind it. -/
theorem joinPresent_front_empty (delimiter : String) (t : Option String) :
    joinPresent delimiter [some "", t] = t.getD "" := by
  cases t with
  | none => rfl
  | some t =>
      by_cases ht : t = ""
      · simp [joinPresent, Parts.join, presentParts, joinWith, ht]
      · simp [joinPresent, Parts.join, presentParts, joinWith, ht]

/-- Between two parts that are not empty, an empty one is left out. -/
theorem joinPresent_middle (delimiter s : String) {before after : Option String}
    (hbefore : before ≠ some "") (hafter : after ≠ some "") :
    joinPresent delimiter [before, some s, after] =
      joinWith delimiter (before.toList ++ (if s = "" then [] else [s]) ++ after.toList) := by
  have hkept : ∀ part : Option String, part ≠ some "" →
      part.toList.filter (fun t => !t.isEmpty) = part.toList := by
    intro part hpart
    cases part with
    | none => rfl
    | some t =>
        have ht : t ≠ "" := fun heq => hpart (congrArg some heq)
        simp [ht]
  have hparts : presentParts [before, some s, after] =
      before.toList ++ (if s = "" then [] else [s]) ++ after.toList := by
    have hlist : [before, some s, after].filterMap id = before.toList ++ [s] ++ after.toList := by
      cases before <;> cases after <;> rfl
    rw [presentParts, hlist, List.filter_append, List.filter_append, hkept before hbefore,
      hkept after hafter]
    by_cases hs : s = ""
    · simp [hs]
    · simp [hs]
  rw [joinPresent, Parts.join, hparts]

end Layout

/-! ## Lines without an image -/

section Lines

variable {m : Mapping Value}

/-- What comes to stand in the place of the image, between its platform and its alias. -/
theorem joinPresent_eq_imagelessLine {reference : String} (hreference : reference = m.standIn) :
    "FROM" ++ " " ++ Layout.joinPresent " "
        [(Body.textUnder m "platform").map ("--platform=" ++ ·), some reference,
          (Body.textUnder m "alias").map ("AS " ++ ·)] = m.imagelessLine := by
  have hplatform : (Body.textUnder m "platform").map ("--platform=" ++ ·) ≠ some "" := by
    cases Body.textUnder m "platform" <;> simp
  have hstage : (Body.textUnder m "alias").map ("AS " ++ ·) ≠ some "" := by
    cases Body.textUnder m "alias" <;> simp
  rw [Layout.joinPresent_middle " " reference hplatform hstage, hreference, Mapping.imagelessLine]
  rfl

/-- An empty image leaves the tag, or the digest, as the whole reference. -/
theorem imageLine_eq_imagelessLine {call : Call} {tag : Option String} (him : m.NamesImage)
    (himage : m.get? "image" = some (.string ""))
    (htag : call.optionalScalar "tag" (Constraint.givenKey? m "tag") = .ok tag) :
    "FROM" ++ " " ++ Body.imageLine m tag = m.imagelessLine := by
  have htext : Body.textUnder m "image" = some "" := by
    rw [Body.textUnder, himage]
    rfl
  have hwritten := Call.getD_of_optionalScalar him.tag htag
  refine joinPresent_eq_imagelessLine ?_
  cases hgiven : Constraint.givenKey? m "tag" with
  | none =>
      rw [hgiven] at htag
      cases htag
      show Layout.joinPresent "@" [Body.textUnder m "image", Body.textUnder m "digest"] = m.standIn
      rw [htext, Layout.joinPresent_front_empty, Mapping.standIn, ← hwritten]
      rfl
  | some v =>
      rw [hgiven] at htag
      obtain ⟨written, -, rfl⟩ := Results.of_map htag
      show Layout.joinPresent ":" [Body.textUnder m "image", some written] = m.standIn
      rw [htext, Layout.joinPresent_front_empty, Mapping.standIn, him.digest_eq_none hgiven,
        ← hwritten]
      by_cases hempty : written = ""
      · simp [hempty]
      · simp [hempty]

/-- An accepted mapping with an empty image has the line of its other parts. -/
theorem line_emptyImage {name line : String} (hname : Text.asciiUpper name = "FROM")
    (himage : m.get? "image" = some (.string "")) (h : builtin.line name (.mapping m) = .ok line) :
    line = m.imagelessLine := by
  obtain ⟨him, call, tag, htag, rfl⟩ := exists_imageLine hname h
  exact imageLine_eq_imagelessLine him himage htag

end Lines

/-- Whatever its image is called, an accepted mapping has one; but only if that is not empty, it
stands at the front of the line, behind the platform.  An empty image leaves its place to the tag,
the digest or the alias. -/
theorem image_named_unless_empty {name line : String} {m : Mapping Value}
    (hname : Text.asciiUpper name = "FROM") :
    builtin.line name (.mapping m) = .ok line ↔
      m.NamesImage ∧ ∃ image, m.get? "image" = some (.string image) ∧
        (image ≠ "" ∧ line = m.referenceLine image ∨ image = "" ∧ line = m.imagelessLine) := by
  -- the parts determine the line, in either case
  have hline : ∀ {image line : String}, m.get? "image" = some (.string image) →
      builtin.line name (.mapping m) = .ok line →
        (image ≠ "" ∧ line = m.referenceLine image ∨ image = "" ∧ line = m.imagelessLine) := by
    intro image line himage h
    by_cases hempty : image = ""
    · subst hempty
      exact .inr ⟨rfl, line_emptyImage hname himage h⟩
    · exact .inl ⟨hempty, line_imageMapping hname himage hempty h⟩
  constructor
  · intro h
    obtain ⟨him, -⟩ := exists_imageLine hname h
    obtain ⟨v, hget, shape, hshape, hv⟩ := him.image
    obtain rfl := List.mem_singleton.mp hshape
    obtain ⟨image, rfl⟩ := Value.shape?_eq_string hv
    exact ⟨him, image, hget, hline hget h⟩
  · rintro ⟨him, image, himage, hparts⟩
    obtain ⟨made, hmade⟩ := exists_line_of_namesImage hname him
    rw [hmade]
    rcases hparts with ⟨hne, rfl⟩ | ⟨hempty, rfl⟩ <;>
      rcases hline himage hmade with ⟨hne', rfl⟩ | ⟨hempty', rfl⟩
    · rfl
    · exact absurd hempty' hne
    · exact absurd hempty hne'
    · rfl

/-- An image with a platform, an integer as its tag, and an alias. -/
def stagedImage (image : String) : Mapping Value :=
  ⟨[("image", .string image), ("tag", .integer 22), ("alias", .string "build"),
    ("platform", .string "linux/amd64")]⟩

/-- The image stands between its platform and its tag, and an empty one leaves the tag alone. -/
theorem image_named_unless_empty_staged :
    builtin.line "From" (.mapping (stagedImage "node")) =
      .ok "FROM --platform=linux/amd64 node:22 AS build" ∧
    builtin.line "From" (.mapping (stagedImage "")) =
      .ok "FROM --platform=linux/amd64 22 AS build" := by
  have hname : Text.asciiUpper "From" = "FROM" := by decide
  have him : ∀ image, (stagedImage image).NamesImage := by
    intro image
    constructor <;>
      simp [stagedImage, Mapping.Requires, Mapping.Allows, Mapping.Excludes,
        Mapping.contains_eq_isSome, Mapping.get?, Mapping.findEntry, Value.HasShape, Value.shape?]
  constructor
  · exact (image_named_unless_empty hname).mpr
      ⟨him "node", "node", rfl, .inl ⟨by decide, by decide +kernel⟩⟩
  · exact (image_named_unless_empty hname).mpr
      ⟨him "", "", rfl, .inr ⟨rfl, by decide +kernel⟩⟩

/-- A tag stands where the image should be; as a text, the empty image is refused. -/
theorem tag_in_place_of_image :
    builtin.line "FROM" (.mapping ⟨[("image", .string ""), ("tag", .string "18.04")]⟩) =
      .ok "FROM 18.04" ∧
    builtin.line "FROM" (.string "") =
      .error (.argumentMissing "FROM" "image" Usage.imageText) := by
  constructor
  · exact Results.eq_ok_of_toOption (by decide)
  · exact Results.eq_error_of_error? (by decide)

end ImageRecipe
