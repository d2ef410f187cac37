import ImageRecipe.Proofs.Template.Rendering
import ImageRecipe.Renderer

/-!
# Texts without tags

A text in which no mark opens a tag is rendered as it is, whatever the variables are.  Most
documents are such texts.

* `Unmarked` : two braces, a brace and a percent sign, or a brace and a hash are nowhere in the text
* `Piece.ofChars?_of_unmarked` : it is one piece, or none if it is empty
* `ofText_of_unmarked` : as a template it writes itself
* `renderSource_of_unmarked` : and so it is rendered
-/

namespace ImageRecipe

namespace Template

/-- The marks that open a tag. -/
def openingMarks : List (List Char) := [['{', '{'], ['{', '%'], ['{', '#']]

/-- None of the marks that open a tag is in the text. -/
def Unmarked (cs : List Char) : Prop := ∀ mark ∈ openingMarks, ¬mark <:+: cs

instance (cs : List Char) : Decidable (Unmarked cs) :=
  inferInstanceAs (Decidable (∀ mark ∈ openingMarks, ¬mark <:+: cs))

theorem Unmarked.tail {c : Char} {cs : List Char} (h : Unmarked (c :: cs)) : Unmarked cs :=
  fun mark hmark hinfix => h mark hmark (List.infix_cons hinfix)

/-- Where a mark is ahead, it is in the text. -/
theorem Unmarked.atMark {cs : List Char} (h : Unmarked cs) : Piece.atMark cs = false := by
  match cs with
  | [] => rfl
  | [c] => simp [Piece.atMark]
  | c :: d :: rest =>
      by_cases hbrace : c = '{'
      · subst hbrace
        have hahead : ∀ e, ['{', e] ∈ openingMarks → d ≠ e := by
          rintro e he rfl
          exact h _ he ⟨[], rest, rfl⟩
        have hdouble : d ≠ '{' := hahead '{' (by decide)
        have hpercent : d ≠ '%' := hahead '%' (by decide)
        have hhash : d ≠ '#' := hahead '#' (by decide)
        simp [Piece.atMark, hdouble, hpercent, hhash]
      · simp [Piece.atMark, hbrace]

namespace Piece

theorem splitAtMark_of_unmarked {cs : List Char} (h : Unmarked cs) : splitAtMark cs = (cs, []) := by
  induction cs with
  | nil => rfl
  | cons c rest ih => simp only [splitAtMark, h.atMark, ih h.tail, Bool.false_eq_true, if_false]

/-- The whole text is one piece, but an empty text is none. -/
theorem ofChars?_of_unmarked {cs : List Char} (h : Unmarked cs) :
    ofChars? cs = some (if cs = [] then [] else [.text cs]) := by
  cases cs with
  | nil => rfl
  | cons c rest =>
      simp only [ofChars?, List.length_cons, ofCharsUpTo, h.atMark, splitAtMark_of_unmarked h,
        Bool.false_eq_true, if_false]
      cases rest <;> rfl

end Piece

/-- The nodes of a text that is written as it is. -/
def textNodes (text : String) : List Node := if text = "" then [] else [.text text]

theorem ofText_of_unmarked (name : String) {text : String} (h : Unmarked text.toList) :
    Template.ofText name text = .ok ⟨name, none, textNodes text, []⟩ := by
  unfold Template.ofText textNodes
  rw [Piece.ofChars?_of_unmarked h]
  by_cases hempty : text = ""
  · subst hempty
    rfl
  · have hchars : text.toList ≠ [] := by simpa using hempty
    have hnodes : Node.ofPieces? [.text text.toList] = some [.text (String.ofList text.toList)] :=
      rfl
    rw [if_neg hchars, if_neg hempty]
    simp only [hnodes, String.ofList_toList]
    rfl

/-- Writing the nodes of a text writes the text. -/
theorem runNodes_textNodes (stage : Stage) (jump : List Node → Run → Outcome) (text : String)
    (r : Run) : runNodes stage jump (textNodes text) r = (r.write text).proceed := by
  unfold textNodes
  split
  · rename_i hempty
    rw [hempty, Run.write_nothing]
    rfl
  · rfl

end Template

open Template

/-- A text without marks is rendered to itself. -/
theorem renderSource_of_unmarked {text : String} (h : Unmarked text.toList)
    (vars : Mapping Value) : renderSource text vars = .ok text := by
  have hlibrary : Library.ofSources [(sourceName, text)] =
      .ok ⟨[⟨⟨sourceName, none, textNodes text, []⟩, []⟩]⟩ := by
    simp only [Library.ofSources, Library.readAll, ofText_of_unmarked sourceName h]
    rfl
  have hfind : (⟨[⟨⟨sourceName, none, textNodes text, []⟩, []⟩]⟩ : Library).find? sourceName =
      some ⟨⟨sourceName, none, textNodes text, []⟩, []⟩ := by
    simp [Library.find?]
  have hwritten : ("" : String) ++ text = text := String.empty_append
  have hrendered : ∀ stage : Stage,
      (⟨⟨sourceName, none, textNodes text, []⟩, []⟩ : Member).render stage = .ok text := by
    intro stage
    unfold Member.render
    rw [show (Library.lineage _ ⟨⟨sourceName, none, textNodes text, []⟩, []⟩).getLast? =
      some ⟨⟨sourceName, none, textNodes text, []⟩, []⟩ from rfl, Option.getD_some]
    dsimp only
    rw [maximalDepth, runUpTo, runNodes_textNodes]
    simp only [Run.proceed, Run.write, hwritten]
  rw [renderSource, Engine.renderText_modelled, Library.renderText, hlibrary]
  dsimp only
  rw [Library.render, hfind]
  dsimp only
  rw [hrendered]
  rfl

end ImageRecipe
