import ImageRecipe.Proofs.Renderer
import ImageRecipe.Proofs.Template.Engine
import ImageRecipe.Proofs.Template.Search

/-!
# Renderers of search directories

A renderer is made of what the search finds, and of nothing else.  So the first directory with a
name decides what the name stands for, and what the search passes over has no part in it.  Which
texts are templates is for the engine to say.

* `Renderer.Serves`, `Renderer.serves_of_catalogue` : the templates that a renderer has
* `Renderer.ofDirectories_of_catalogue`, `Renderer.ofDirectories_of_error` : how loading ends
* `Renderer.ofDirectories_layers` : when there is a renderer, which one, and what changes nothing
-/

namespace ImageRecipe

open Template

namespace Renderer

variable {E : Engine} {Holds : E.Templates → String → String → Prop}
  {directories : List (Option Directory)} {texts : List (String × String)}

/-- The templates of a renderer are those of search directories. -/
structure Serves (Holds : E.Templates → String → String → Prop) (r : Renderer E)
    (directories : List (Option Directory)) : Prop where
  /-- The names are sorted, and none is there twice. -/
  ascending : r.templateNames.Pairwise (· < ·)
  /-- They are the names of all files, and that of the built-in template. -/
  mem_iff : ∀ name, name ∈ r.templateNames ↔
    name = defaultName ∨ ∃ directory, some directory ∈ directories ∧ name ∈ directory.keys
  /-- A name stands for the file that the first directory with that name has. -/
  file : ∀ name text, provided? directories name = some (.ok text) →
    Holds r.templates name text
  /-- The built-in template is there if no directory has a file of its name. -/
  builtin : provided? directories defaultName = none →
    Holds r.templates defaultName builtinText

/-- The names of a renderer for texts in ascending order are those of the texts. -/
theorem templateNames_of_load (hE : E.Keeps Holds)
    (hascending : (texts.map Prod.fst).Pairwise (· < ·)) {templates : E.Templates}
    (hload : E.load texts = .ok templates) (c : Converter) :
    templateNames (⟨templates, c⟩ : Renderer E) = texts.map Prod.fst := by
  have hnodup : (texts.map Prod.fst).Nodup := hascending.imp String.ne_of_lt
  have hperm := hE.names hnodup hload
  have hsorted : ((E.names templates).mergeSort fun a b => !(b < a)).Pairwise (· < ·) :=
    pairwise_mergeSort_of_nodup id (by rw [List.map_id]; exact hperm.nodup_iff.mpr hnodup)
  have : Std.Antisymm fun a b : String => a < b :=
    ⟨fun _ _ hab hba => absurd hab (String.lt_asymm hba)⟩
  have : Std.Irrefl fun a b : String => a < b := ⟨fun a => String.lt_irrefl a⟩
  refine hsorted.eq_of_mem_iff hascending fun name => ?_
  rw [List.mem_mergeSort, hperm.mem_iff]

/-- Templates that an engine has loaded of a catalogue serve its directories. -/
theorem serves_of_catalogue (hE : E.Keeps Holds) (h : Catalogue directories texts)
    (hpassable : Passable (items directories))
    (htexts : ∀ name e, provided? directories name ≠ some (.error e))
    {templates : E.Templates} (hload : E.load texts = .ok templates) (c : Converter) :
    Serves Holds (⟨templates, c⟩ : Renderer E) directories := by
  have hnames := templateNames_of_load hE h.ascending_names hload c
  constructor
  case ascending => exact hnames ▸ h.ascending_names
  case mem_iff => exact fun name => hnames ▸ h.mem_names_iff hpassable htexts name
  case file =>
      intro name text hname
      exact hE.holds h.nodup_names hload ((h.mem_iff name text).mpr (.inl hname))
  case builtin =>
      intro hnone
      exact hE.holds h.nodup_names hload
        ((h.mem_iff defaultName builtinText).mpr (.inr ⟨rfl, rfl, hnone⟩))

/-- Loading depends on the directories through what the search finds. -/
theorem ofDirectories_congr (c : Converter) (E : Engine) {others : List (Option Directory)}
    (h : sources directories = sources others) :
    ofDirectories c directories E = ofDirectories c others E := by
  rw [ofDirectories, ofDirectories, h]

/-- A search that fails ends the loading. -/
theorem ofDirectories_of_error (c : Converter) (E : Engine) {failure : Failure}
    (h : sources directories = .error failure) :
    ofDirectories c directories E = .error failure := by
  rw [ofDirectories, h]

/-- Else it ends as the engine does with the texts that are found. -/
theorem ofDirectories_of_catalogue (c : Converter) (E : Engine) (h : Catalogue directories texts)
    (hpassable : Passable (items directories))
    (htexts : ∀ name e, provided? directories name ≠ some (.error e)) :
    ofDirectories c directories E = ofSources c texts E := by
  have hsources : sources directories = .ok texts :=
    sources_eq_ok_iff.mpr ⟨hpassable, htexts, h⟩
  rw [ofDirectories, hsources]

/-- Search directories are layers.

* If all of them can be walked through, and all files that no earlier directory shadows are texts,
  there is one catalogue of these, and a renderer if the engine takes it; it then serves the
  directories.
* If all of them can be walked through, and a file that no earlier directory shadows is no text,
  such a file ends the loading.
* The first place where a walk cannot go on ends it too, if no file before it does.
* What is no directory can be left out, and a shadowed file can hold anything: the result of loading
  is the same, and so is every rendering. -/
theorem ofDirectories_layers (hE : E.Keeps Holds) (c : Converter)
    (directories : List (Option Directory)) :
    (Passable (items directories) →
      (∀ name e, provided? directories name ≠ some (.error e)) →
      ∃ texts, (∀ others, Catalogue directories others ↔ others = texts) ∧
        (∀ templates, E.load texts = .ok templates →
          ofDirectories c directories E = .ok ⟨templates, c⟩ ∧
            Serves Holds (⟨templates, c⟩ : Renderer E) directories) ∧
        ∀ problem, E.load texts = .error problem →
          ofDirectories c directories E = .error (.template problem)) ∧
    (Passable (items directories) →
      ∀ name e, provided? directories name = some (.error e) →
      ∃ other cause, provided? directories other = some (.error cause) ∧
        ofDirectories c directories E = .error (.inputOutput cause)) ∧
    (∀ before path directory reason behind,
      items directories = before ++ (path, .fault directory reason) :: behind →
      Passable before → (∀ name e, fileOf? name before ≠ some (.error e)) →
      ofDirectories c directories E = .error (.template (.scan directory reason))) ∧
    (∀ before behind, directories = before ++ none :: behind →
      ofDirectories c (before ++ behind) E = ofDirectories c directories E) ∧
    (∀ before earlier directory behind name text,
      directories = before ++ some directory :: behind →
      some earlier ∈ before → name ∈ earlier.keys →
      (∀ top reason, directory.get? name ≠ some (.fault top reason)) →
      ofDirectories c (before ++ some (directory.insert name (.file text)) :: behind) E =
        ofDirectories c directories E) := by
  refine ⟨fun hpassable htexts => ?_, ?_, ?_, ?_, ?_⟩
  · obtain ⟨texts, hcatalogue⟩ := exists_catalogue hpassable htexts
    have hload := ofDirectories_of_catalogue c E hcatalogue hpassable htexts
    refine ⟨texts, fun others => ⟨fun h => h.unique hcatalogue, fun h => h ▸ hcatalogue⟩,
      fun templates htemplates =>
        ⟨?_, serves_of_catalogue hE hcatalogue hpassable htexts htemplates c⟩,
      fun problem hproblem => ?_⟩
    · rw [hload, ofSources, htemplates]
    · rw [hload, ofSources, hproblem]
  · intro hpassable name e hname
    obtain ⟨other, cause, hother, hsources⟩ := sources_unreadable hpassable hname
    exact ⟨other, cause, hother, ofDirectories_of_error c E hsources⟩
  · intro before path directory reason behind hitems hpassable htexts
    exact ofDirectories_of_error c E (sources_fault hitems hpassable htexts)
  · rintro before behind rfl
    exact ofDirectories_congr c E (sources_skip before behind).symm
  · rintro before earlier directory behind name text rfl hearlier hname hfile
    exact ofDirectories_congr c E
      (sources_shadowed hearlier hname directory hfile text behind)

/-- A file behind one of the same name need not even be a text; a link that leads back ends the
loading. -/
theorem ofDirectories_layers_shadowed :
    (∃ r, ofDirectories .builtin
        (plainDirectories ++ [some ⟨[("Base", .file (.error .notText))]⟩]) = .ok r ∧
      r.templateNames = ["Base", "Dockerfile"]) ∧
    ofDirectories .builtin (plainDirectories ++ [some ⟨[("Base", .fault "b" "loop")]⟩]) =
      .error (.template (.scan "b" "loop")) := by
  constructor
  · obtain ⟨-, -, -, -, hshadowed⟩ := ofDirectories_layers Engine.keeps_modelled .builtin
      (plainDirectories ++ [some ⟨[("Base", .file (.ok "other"))]⟩])
    have hbytes := hshadowed plainDirectories ⟨[("Base", .file (.ok "plain"))]⟩
      ⟨[("Base", .file (.ok "other"))]⟩ [] "Base" (.error .notText) rfl
      (List.mem_cons_of_mem _ List.mem_cons_self) (by decide) nofun
    have hpassed : sources (plainDirectories ++ [some ⟨[("Base", .file (.ok "other"))]⟩]) =
        sources plainDirectories := rfl
    have hload := hbytes.trans (ofDirectories_congr .builtin .modelled hpassed)
    have hsorted : ["Base", defaultName].Pairwise fun a b => !decide (b < a) := by decide
    exact ⟨_, hload.trans (ofDirectories_plainDirectories .builtin),
      List.mergeSort_of_pairwise hsorted⟩
  · obtain ⟨-, -, hfault, -⟩ := ofDirectories_layers Engine.keeps_modelled .builtin
      (plainDirectories ++ [some ⟨[("Base", .fault "b" "loop")]⟩])
    refine hfault [("Base", .file (.ok "plain"))] "Base" "b" "loop" [] rfl (by simp [Passable]) ?_
    intro name e hname
    rw [fileOf?, fileOf?] at hname
    split at hname <;> cases hname

end Renderer

end ImageRecipe
