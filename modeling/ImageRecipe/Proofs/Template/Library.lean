import Mathlib
import ImageRecipe.Proofs.Results
import ImageRecipe.Proofs.Template.Search
import ImageRecipe.Template.Library

/-!
# Which templates are found

The templates of a library are what its sources spell, each under the name of its source.  So the
built-in template is found where no directory has a file of the default name.

* `Library.mem_ofSources_iff`, `Library.names_ofSources` : the members of a library, source by
  source, and their names
* `Library.exists_find?_ofSources` : the template that is found by a name
* `Library.find?_builtin` : the template that is found by the default name
-/

namespace ImageRecipe.Template

/-! ## Libraries -/

theorem name_of_ofText {name text : String} {t : Template}
    (h : Template.ofText name text = .ok t) : t.name = name := by
  unfold Template.ofText at h
  cases hpieces : Piece.ofChars? text.toList with
  | none => simp [hpieces] at h
  | some pieces =>
      cases hnodes : Node.ofPieces? pieces with
      | none => simp [hpieces, hnodes] at h
      | some nodes =>
          cases hsize : pieces.findSome? Piece.oversized? with
          | some n => simp [hpieces, hnodes, hsize] at h
          | none =>
              cases hblocks : firstRepeated? [] ((blocksOf nodes).map Prod.fst) with
              | some block => simp [hpieces, hnodes, hsize, hblocks] at h
              | none =>
                  simp only [hpieces, hnodes, hsize, hblocks, Except.ok.injEq] at h
                  rw [← h]

namespace Library

/-- The templates of a library are those of its sources. -/
theorem mem_readAll_iff {sources : List (String × String)} {templates : List Template}
    (h : readAll sources = .ok templates) {t : Template} :
    t ∈ templates ↔ ∃ text, (t.name, text) ∈ sources ∧ Template.ofText t.name text = .ok t := by
  induction sources generalizing templates with
  | nil =>
      cases h
      simp
  | cons source rest ih =>
      obtain ⟨name, text⟩ := source
      rw [readAll] at h
      cases hfirst : Template.ofText name text with
      | error problem => simp [hfirst] at h
      | ok first =>
          rw [hfirst] at h
          obtain ⟨others, hrest, rfl⟩ := Results.of_map h
          rw [List.mem_cons, ih hrest]
          constructor
          · rintro (rfl | ⟨other, hmem, hother⟩)
            · rw [name_of_ofText hfirst]
              exact ⟨text, List.mem_cons_self, hfirst⟩
            · exact ⟨other, List.mem_cons_of_mem _ hmem, hother⟩
          · rintro ⟨other, hmem, hother⟩
            rcases List.mem_cons.1 hmem with heq | hmem
            · cases heq
              exact .inl (Except.ok.inj (hother.symm.trans hfirst))
            · exact .inr ⟨other, hmem, hother⟩

theorem mem_withParents_iff {templates chosen : List Template} {members : List Member}
    (h : withParents templates chosen = .ok members) {m : Member} :
    m ∈ members ↔ m.template ∈ chosen ∧
      parentsOf templates m.template.name (templates.length + 2) m.template [] = .ok m.parents := by
  induction chosen generalizing members with
  | nil =>
      cases h
      simp
  | cons first rest ih =>
      rw [withParents] at h
      cases hparents : parentsOf templates first.name (templates.length + 2) first [] with
      | error problem => simp [hparents] at h
      | ok parents =>
          rw [hparents] at h
          obtain ⟨others, hrest, rfl⟩ := Results.of_map h
          rw [List.mem_cons, ih hrest, List.mem_cons]
          constructor
          · rintro (rfl | ⟨hmem, hm⟩)
            · exact ⟨.inl rfl, hparents⟩
            · exact ⟨.inr hmem, hm⟩
          · rintro ⟨heq | hmem, hm⟩
            · left
              obtain ⟨template, found⟩ := m
              cases heq
              rw [Except.ok.inj (hparents.symm.trans hm)]
            · exact .inr ⟨hmem, hm⟩

/-- The members of a library: the templates of its sources, each with its parents. -/
theorem mem_ofSources_iff {sources : List (String × String)} {l : Library}
    (h : ofSources sources = .ok l) {m : Member} :
    m ∈ l.members ↔ ∃ templates, readAll sources = .ok templates ∧ m.template ∈ templates ∧
      parentsOf templates m.template.name (templates.length + 2) m.template [] =
        .ok m.parents := by
  unfold ofSources at h
  cases hread : readAll sources with
  | error problem => simp [hread] at h
  | ok templates =>
      rw [hread] at h
      obtain ⟨members, hmembers, rfl⟩ := Results.of_map h
      rw [mem_withParents_iff hmembers]
      simp

theorem names_readAll {sources : List (String × String)} {templates : List Template}
    (h : readAll sources = .ok templates) :
    templates.map Template.name = sources.map Prod.fst := by
  induction sources generalizing templates with
  | nil =>
      cases h
      rfl
  | cons source rest ih =>
      obtain ⟨name, text⟩ := source
      rw [readAll] at h
      cases hfirst : Template.ofText name text with
      | error problem => simp [hfirst] at h
      | ok first =>
          rw [hfirst] at h
          obtain ⟨others, hrest, rfl⟩ := Results.of_map h
          rw [List.map_cons, List.map_cons, ih hrest, name_of_ofText hfirst]

theorem templates_withParents {templates chosen : List Template} {members : List Member}
    (h : withParents templates chosen = .ok members) : members.map Member.template = chosen := by
  induction chosen generalizing members with
  | nil =>
      cases h
      rfl
  | cons first rest ih =>
      rw [withParents] at h
      cases hparents : parentsOf templates first.name (templates.length + 2) first [] with
      | error problem => simp [hparents] at h
      | ok parents =>
          rw [hparents] at h
          obtain ⟨others, hrest, rfl⟩ := Results.of_map h
          rw [List.map_cons, ih hrest]

/-- A library has the names of its sources, in their order. -/
theorem names_ofSources {sources : List (String × String)} {l : Library}
    (h : ofSources sources = .ok l) : l.names = sources.map Prod.fst := by
  unfold ofSources at h
  cases hread : readAll sources with
  | error problem => simp [hread] at h
  | ok templates =>
      rw [hread] at h
      obtain ⟨members, hmembers, rfl⟩ := Results.of_map h
      rw [← names_readAll hread, ← templates_withParents hmembers, List.map_map]
      rfl

/-- Under names that differ, what is found by a name is what the text under it spells. -/
theorem exists_find?_ofSources {sources : List (String × String)} {l : Library}
    (h : ofSources sources = .ok l) (hnames : (sources.map Prod.fst).Nodup) {name text : String}
    (hmem : (name, text) ∈ sources) :
    ∃ m, l.find? name = some m ∧ Template.ofText name text = .ok m.template := by
  have hname : name ∈ l.names := names_ofSources h ▸ List.mem_map_of_mem hmem
  obtain ⟨member, hmember, hmemberName⟩ := List.mem_map.mp hname
  cases hfind : l.find? name with
  | none => exact absurd (List.find?_eq_none.mp hfind member hmember) (by simp [hmemberName])
  | some m =>
      have hfound : m.template.name = name := by simpa using List.find?_some hfind
      obtain ⟨templates, hread, hm, -⟩ :=
        (mem_ofSources_iff h).mp (List.mem_of_find?_eq_some hfind)
      obtain ⟨other, hother, htext⟩ := (mem_readAll_iff hread).mp hm
      rw [hfound] at hother htext
      have hsame : other = text :=
        congrArg Prod.snd (List.inj_on_of_nodup_map hnames hother hmem rfl)
      exact ⟨m, rfl, hsame ▸ htext⟩

end Library

/-! ## The built-in template -/

/-- The template that the built-in text spells: a loop over the instructions that writes a line for
each. -/
def eachInstruction : Template where
  name := defaultName
  parent := none
  nodes :=
    [.loop ⟨none, "instruction", .ofAtom (.path ⟨"instructions"⟩)⟩
      [.output (.ofAtom (.call "docker_instruction"
        [("instruction", .ofAtom (.path ⟨"instruction"⟩))])),
       .text "\n"] []]
  blocks := []

theorem ofText_builtinText : Template.ofText defaultName builtinText = .ok eachInstruction := by
  cbv

/-- The template that the built-in text makes among others has no parents. -/
theorem Library.find?_builtin {texts : List (String × String)} {l : Library}
    (hnames : (texts.map Prod.fst).Nodup) (hmem : (defaultName, builtinText) ∈ texts)
    (hl : Library.ofSources texts = .ok l) :
    l.find? defaultName = some ⟨eachInstruction, []⟩ := by
  obtain ⟨⟨template, parents⟩, hfind, htext⟩ := exists_find?_ofSources hl hnames hmem
  obtain ⟨templates, -, -, hparents⟩ :=
    (mem_ofSources_iff hl).mp (List.mem_of_find?_eq_some hfind)
  rw [ofText_builtinText] at htext
  cases htext
  cases hparents
  exact hfind

end ImageRecipe.Template
