import ImageRecipe.Proofs.Instruction.Dispatch
import ImageRecipe.Proofs.Instruction.ImageText
import ImageRecipe.Proofs.Instruction.NamedKeys

/-!
# Images given as mappings

The line of an image that is given as a mapping is put together from up to five parts, some of
which may be absent or empty.  Here it is written down part by part, and compared with the line of
the text that has the same image and the same tag or digest.

* `Mapping.referenceLine` : the line of an image, part by part
* `line_imageMapping` : an accepted mapping has this line
* `line_imagePair` : an image and its tag or digest, in a mapping
* `named_keys_decide_line` : what lines of mappings depend on, and what the lines of images are
-/

namespace ImageRecipe

open Converter (builtin)

/-! ## Parts of a line -/

namespace Layout

variable (delimiter : String) {s : String}

/-- A part that is there stands between two that may be missing, but are not empty. -/
theorem joinPresent_between {before after : Option String} (hs : s ≠ "")
    (hbefore : before ≠ some "") (hafter : after ≠ some "") :
    joinPresent delimiter [before, some s, after] =
      before.elim "" (· ++ delimiter) ++ s ++ after.elim "" (delimiter ++ ·) := by
  have hother : ∀ t : String, some t ≠ some "" → t ≠ "" := by
    intro t ht heq
    exact ht (congrArg some heq)
  cases before with
  | none =>
      cases after with
      | none => simp [joinPresent, Parts.join, presentParts, joinWith, hs]
      | some t =>
          have ht := hother t hafter
          simp [joinPresent, Parts.join, presentParts, joinWith, hs, ht, String.append_assoc]
  | some r =>
      have hr := hother r hbefore
      cases after with
      | none => simp [joinPresent, Parts.join, presentParts, joinWith, hs, hr]
      | some t =>
          have ht := hother t hafter
          simp [joinPresent, Parts.join, presentParts, joinWith, hs, hr, ht, String.append_assoc]

/-- A second part that is missing or empty leaves no delimiter behind. -/
theorem joinPresent_behind (hs : s ≠ "") (t : Option String) :
    joinPresent delimiter [some s, t] =
      s ++ if t.getD "" = "" then "" else delimiter ++ t.getD "" := by
  cases t with
  | none => simp [joinPresent_single]
  | some t =>
      by_cases ht : t = ""
      · simp [ht, joinPresent_empty]
      · rw [joinPresent_pair delimiter hs ht, Option.getD_some, if_neg ht, String.append_assoc]

end Layout

namespace Mapping

variable (m : Mapping Value)

/-- The tag as it is written, an integer in decimal; nothing if there is none. -/
def tagText : String :=
  match m.get? "tag" with
  | some (.string s) => s
  | some (.integer n) => Decimal.integerText n.toInt
  | _ => ""

/-- What stands behind the image: the tag behind a colon, or else the digest behind an at sign, if
it is there and not empty. -/
def reference : String :=
  let digest := (Body.textUnder m "digest").getD ""
  if m.tagText ≠ "" then ":" ++ m.tagText else if digest ≠ "" then "@" ++ digest else ""

/-- The line of an image, the platform in front of it and the alias behind its reference. -/
def referenceLine (image : String) : String :=
  "FROM " ++ (Body.textUnder m "platform").elim "" (fun p => "--platform=" ++ p ++ " ") ++ image ++
    m.reference ++ (Body.textUnder m "alias").elim "" fun a => " AS " ++ a

end Mapping

/-- The three parts that are captured of a text are all of it, and the first and the last one are
not empty. -/
theorem Pattern.whole_of_captures {s image delimiter reference : String} {captures : Captures}
    (hmatch : imageReference.match? s = some captures)
    (himage : captures.get? "image" = some image)
    (hdelimiter : captures.get? "delimiter" = some delimiter)
    (hreference : captures.get? "reference" = some reference) :
    s = image ++ delimiter ++ reference ∧ image ≠ "" ∧ reference ≠ "" := by
  have hwhole := (cutsImage_of_match? hmatch).whole
  rw [himage, hdelimiter, hreference] at hwhole
  obtain ⟨⟨cs, tail⟩, hsplit, rfl⟩ := Option.map_eq_some_iff.mp hmatch
  obtain ⟨-, hne, htail⟩ := splitReference?_sound hsplit
  cases tail with
  | none => cases hreference
  | some cut =>
      cases himage
      cases hreference
      exact ⟨hwhole.symm, by simpa using hne, by simpa using htail cut rfl⟩

/-! ## Lines of mappings -/

section Lines

variable {m : Mapping Value} {image : String}

/-- The tag that a body writes is the text of the key. -/
theorem Call.getD_of_optionalScalar {call : Call} {tag : Option String}
    (hallows : m.Allows "tag" [.string, .integer])
    (h : call.optionalScalar "tag" (Constraint.givenKey? m "tag") = .ok tag) :
    tag.getD "" = m.tagText := by
  cases hgiven : Constraint.givenKey? m "tag" with
  | none =>
      rw [hgiven] at h
      cases h
      cases hget : m.get? "tag" with
      | none => rw [Mapping.tagText, hget]; rfl
      | some v =>
          obtain rfl := Constraint.givenKey?_eq_none_iff.mp hgiven v hget
          rw [Mapping.tagText, hget]
          rfl
  | some v =>
      rw [hgiven] at h
      obtain ⟨hget, hne⟩ := Constraint.givenKey?_eq_some_iff.mp hgiven
      obtain ⟨s, hs, rfl⟩ := Results.of_map h
      rcases hallows v hget with rfl | ⟨shape, hshape, hv⟩
      · exact absurd rfl hne
      simp only [List.mem_cons, List.not_mem_nil, or_false] at hshape
      rcases hshape with rfl | rfl
      · obtain ⟨text, rfl⟩ := Value.shape?_eq_string hv
        cases hs
        rw [Mapping.tagText, hget]
        rfl
      · obtain ⟨n, rfl⟩ := Value.shape?_eq_integer hv
        cases hs
        rw [Mapping.tagText, hget]
        rfl

/-- A tag that is given leaves no room for a digest. -/
theorem Mapping.NamesImage.digest_eq_none {v : Value} (him : m.NamesImage)
    (hgiven : Constraint.givenKey? m "tag" = some v) : Body.textUnder m "digest" = none := by
  obtain ⟨hget, hne⟩ := Constraint.givenKey?_eq_some_iff.mp hgiven
  have hnone : m.contains "digest" = false := (him.tagAlone v hget).resolve_left hne
  rw [Mapping.contains_eq_isSome, Option.isSome_eq_false_iff, Option.isNone_iff_eq_none] at hnone
  rw [Body.textUnder, hnone]
  rfl

/-- The reference of an image, between its platform and its alias. -/
theorem joinPresent_eq_referenceLine {reference : String} (hne : image ≠ "")
    (hreference : reference = image ++ m.reference) :
    "FROM" ++ " " ++ Layout.joinPresent " "
        [(Body.textUnder m "platform").map ("--platform=" ++ ·), some reference,
          (Body.textUnder m "alias").map ("AS " ++ ·)] = m.referenceLine image := by
  have hfull : reference ≠ "" := by
    rw [hreference]
    simp [hne]
  have hplatform : (Body.textUnder m "platform").map ("--platform=" ++ ·) ≠ some "" := by
    cases Body.textUnder m "platform" <;> simp
  have hstage : (Body.textUnder m "alias").map ("AS " ++ ·) ≠ some "" := by
    cases Body.textUnder m "alias" <;> simp
  rw [Layout.joinPresent_between " " hfull hplatform hstage, hreference, Mapping.referenceLine]
  cases Body.textUnder m "platform" <;> cases Body.textUnder m "alias" <;>
    simp [← String.append_assoc]

/-- The text of the body, behind the name of the instruction, is the line of the image. -/
theorem imageLine_eq_referenceLine {call : Call} {tag : Option String} (him : m.NamesImage)
    (himage : m.get? "image" = some (.string image)) (hne : image ≠ "")
    (htag : call.optionalScalar "tag" (Constraint.givenKey? m "tag") = .ok tag) :
    "FROM" ++ " " ++ Body.imageLine m tag = m.referenceLine image := by
  have htext : Body.textUnder m "image" = some image := by
    rw [Body.textUnder, himage]
    rfl
  have hwritten := Call.getD_of_optionalScalar him.tag htag
  cases hgiven : Constraint.givenKey? m "tag" with
  | none =>
      rw [hgiven] at htag
      cases htag
      refine joinPresent_eq_referenceLine hne ?_
      show Layout.joinPresent "@" [Body.textUnder m "image", Body.textUnder m "digest"] =
        image ++ m.reference
      rw [htext, Layout.joinPresent_behind "@" hne, Mapping.reference, ← hwritten]
      simp
  | some v =>
      rw [hgiven] at htag
      obtain ⟨s, -, rfl⟩ := Results.of_map htag
      refine joinPresent_eq_referenceLine hne ?_
      show Layout.joinPresent ":" [Body.textUnder m "image", some s] = image ++ m.reference
      rw [htext, Layout.joinPresent_behind ":" hne, Mapping.reference, ← hwritten,
        him.digest_eq_none hgiven]
      simp

theorem exists_imageMapping_handler : ∃ h ∈ builtinHandlers, h.name = "FROM" ∧
    h.shape = .mapping ∧ h.body = .imageMapping ∧
    h.constraints =
      [.requiredKey "image" [.string],
       .optionalKey "tag" [.string, .integer] (some "digest"),
       .optionalKey "digest" [.string] (some "tag"),
       .optionalKey "alias" [.string] none,
       .optionalKey "platform" [.string] none] :=
  ⟨_, List.mem_cons_of_mem _ List.mem_cons_self, rfl, rfl, rfl, rfl⟩

variable {name : String} (hname : Text.asciiUpper name = "FROM")

include hname

/-- An accepted mapping names an image, and its line is the text of the body behind the name of the
instruction. -/
theorem exists_imageLine {line : String} (h : builtin.line name (.mapping m) = .ok line) :
    m.NamesImage ∧ ∃ (call : Call) (tag : Option String),
      call.optionalScalar "tag" (Constraint.givenKey? m "tag") = .ok tag ∧
        line = "FROM" ++ " " ++ Body.imageLine m tag := by
  obtain ⟨g, hmem, hown, hshape, hb, hc⟩ := exists_imageMapping_handler
  have hinstruction : g.instruction = "FROM" := (builtinHandlers_instruction g hmem).trans hown
  obtain ⟨captures, text, hvalid, htext, rfl⟩ :=
    Converter.of_builtin_line hmem (hown.trans hname.symm) (by rw [hshape]; rfl) h
  have him : m.NamesImage :=
    (Converter.takes_imageMapping hc hb).mp ⟨captures, text, hvalid, htext⟩
  rw [hb, Converter.carryOut_imageMapping] at htext
  obtain ⟨tag, htag, rfl⟩ := Results.of_map htext
  exact ⟨him, _, tag, htag, by rw [Handler.lineOf, hinstruction]⟩

/-- If the image is not empty, the line is the one that is put together from the parts. -/
theorem line_imageMapping {line : String} (himage : m.get? "image" = some (.string image))
    (hne : image ≠ "") (h : builtin.line name (.mapping m) = .ok line) :
    line = m.referenceLine image := by
  obtain ⟨him, call, tag, htag, rfl⟩ := exists_imageLine hname h
  exact imageLine_eq_referenceLine him himage hne htag

/-- A mapping that names an image has a line. -/
theorem exists_line_of_namesImage (him : m.NamesImage) :
    ∃ line, builtin.line name (.mapping m) = .ok line := by
  obtain ⟨g, hmem, hown, hshape, hb, hc⟩ := exists_imageMapping_handler
  refine Converter.builtin_line_isOk_iff.mpr
    ⟨g, hmem, hown.trans hname.symm, by rw [hshape]; rfl, ?_⟩
  exact (Converter.takes_imageMapping hc hb).mpr him

/-! ## Texts and mappings -/

/-- The image and the tag or digest of a text, in a mapping with nothing else, have a line. -/
theorem exists_line_imagePair {key : String} (hkey : key = "tag" ∨ key = "digest")
    (image reference : String) :
    ∃ line, builtin.line name
      (.mapping ⟨[("image", .string image), (key, .string reference)]⟩) = .ok line := by
  refine exists_line_of_namesImage hname ?_
  have hget : ∀ other, (⟨[("image", .string image), (key, .string reference)]⟩ :
      Mapping Value).get? other = if "image" = other then some (.string image)
        else if key = other then some (.string reference) else none := fun other => rfl
  rcases hkey with rfl | rfl <;>
    constructor <;>
      simp [Mapping.Requires, Mapping.Allows, Mapping.Excludes, Mapping.contains_eq_isSome, hget,
        Value.HasShape, Value.shape?]

/-- Such a mapping has the line of the text. -/
theorem line_imagePair {key s image delimiter reference : String} {captures : Captures}
    (hkey : key = "tag" ∧ delimiter = ":" ∨ key = "digest" ∧ delimiter = "@")
    (hmatch : Pattern.imageReference.match? s = some captures)
    (himage : captures.get? "image" = some image)
    (hdelimiter : captures.get? "delimiter" = some delimiter)
    (hreference : captures.get? "reference" = some reference) :
    builtin.line name (.mapping ⟨[("image", .string image), (key, .string reference)]⟩) =
      builtin.line name (.string s) := by
  obtain ⟨hwhole, hne, hfull⟩ :=
    Pattern.whole_of_captures hmatch himage hdelimiter hreference
  have hs : s ≠ "" := by
    rw [hwhole]
    simp [hne]
  have htext : builtin.line name (.string s) = .ok ("FROM " ++ s) := by
    have hupper : Text.asciiUpper name = Text.asciiUpper "FROM" := by
      rw [hname]
      decide
    obtain ⟨g, hmem, hown, -, hbody, hc⟩ := exists_imageText_handler
    rw [builtin.line_congr_name hupper, line_imageText hmem hown hbody hc,
      Converter.validate_pattern hc, if_neg hs, hmatch]
    rfl
  obtain ⟨line, hline⟩ :=
    exists_line_imagePair hname (hkey.imp And.left And.left) image reference
  rw [hline, line_imageMapping hname rfl hne hline, htext, hwhole]
  rcases hkey with ⟨rfl, rfl⟩ | ⟨rfl, rfl⟩ <;>
    simp [Mapping.referenceLine, Mapping.reference, Mapping.tagText, Body.textUnder, Mapping.get?,
      Mapping.findEntry, Value.string?, hfull, String.append_assoc]

end Lines

/-- Nothing but the named keys decides the line or the error of a mapping.  The line of an image
whose name is not empty is put together from its parts, one behind the other.  And a text that is
an image with a tag or a digest has the line of the mapping with these two parts. -/
theorem named_keys_decide_line :
    (∀ {name : String} {keys : List String} {m n : Mapping Value},
      (Text.asciiUpper name, keys) ∈ namedKeys → m.AgreeOn keys n →
        builtin.line name (.mapping m) = builtin.line name (.mapping n)) ∧
    (∀ {name line image : String} {m : Mapping Value}, Text.asciiUpper name = "FROM" →
      m.get? "image" = some (.string image) → image ≠ "" →
        builtin.line name (.mapping m) = .ok line → line = m.referenceLine image) ∧
    ∀ {name s image reference : String} {captures : Captures}, Text.asciiUpper name = "FROM" →
      Pattern.imageReference.match? s = some captures →
        captures.get? "image" = some image → captures.get? "reference" = some reference →
          (captures.get? "delimiter" = some ":" →
            builtin.line name
                (.mapping ⟨[("image", .string image), ("tag", .string reference)]⟩) =
              builtin.line name (.string s)) ∧
          (captures.get? "delimiter" = some "@" →
            builtin.line name
                (.mapping ⟨[("image", .string image), ("digest", .string reference)]⟩) =
              builtin.line name (.string s)) := by
  refine ⟨builtin_line_of_agreeOn, ?_, ?_⟩
  · intro name line image m hname himage hne hline
    exact line_imageMapping hname himage hne hline
  intro name s image reference captures hname hmatch himage hreference
  constructor
  · intro hdelimiter
    exact line_imagePair hname (.inl ⟨rfl, rfl⟩) hmatch himage hdelimiter hreference
  · intro hdelimiter
    exact line_imagePair hname (.inr ⟨rfl, rfl⟩) hmatch himage hdelimiter hreference

/-- A foreign key in front of a reference with an alias, and a text with the port of a registry. -/
theorem named_keys_decide_line_build_stage :
    builtin.line "From" (.mapping ⟨[("stage", .null), ("alias", .string "build"),
        ("tag", .integer 22), ("image", .string "golang")]⟩) =
      builtin.line "From" (.mapping ⟨[("image", .string "golang"), ("tag", .integer 22),
        ("alias", .string "build")]⟩) ∧
    Mapping.referenceLine ⟨[("image", .string "golang"), ("tag", .integer 22),
      ("alias", .string "build")]⟩ "golang" = "FROM golang:22 AS build" ∧
    builtin.line "From" (.mapping
        ⟨[("image", .string "localhost:5000/app"), ("tag", .string "1.0")]⟩) =
      builtin.line "From" (.string "localhost:5000/app:1.0") := by
  obtain ⟨hagree, hreference, htext⟩ := named_keys_decide_line
  have hname : Text.asciiUpper "From" = "FROM" := by decide
  have hline : builtin.line "From" (.mapping ⟨[("image", .string "golang"), ("tag", .integer 22),
      ("alias", .string "build")]⟩) = .ok "FROM golang:22 AS build" :=
    Results.eq_ok_of_toOption (by decide +kernel)
  have hmatch : Pattern.imageReference.match? "localhost:5000/app:1.0" =
      some ⟨[("image", "localhost:5000/app"), ("delimiter", ":"), ("reference", "1.0")]⟩ := by
    decide
  have hform : (Text.asciiUpper "From", ["image", "tag", "digest", "alias", "platform"]) ∈
      namedKeys := by decide
  refine ⟨?_, ?_, ?_⟩
  · exact hagree hform (by simp [Mapping.AgreeOn, Mapping.get?, Mapping.findEntry])
  · exact (hreference hname rfl (by decide) hline).symm
  · exact (htext hname hmatch rfl rfl).1 rfl

end ImageRecipe
