import Mathlib.Data.List.Sort
import ImageRecipe.Proofs.Mapping
import ImageRecipe.Proofs.Results
import ImageRecipe.Template.Search

/-!
# The first directory that has a file decides

Search directories lie over each other, the first one on top, with the built-in template at the
bottom.  What is found under a name is what the topmost layer has there; what lies below is not even
read, so that it can be anything.

A search goes through the directories as through one: it takes from what the walks meet one after
the other, and ends where a walk cannot go on, or where a file that it takes is no text.

* `provided?`, `withBuiltin` : the file that a name stands for, and the layer at the bottom
* `gather_eq_takeFiles` : all directories as one
* `get?_takeFiles`, `takeFiles_error` : what is taken, and what ends the search
* `Catalogue`, `Catalogue.unique`, `sources_eq_ok_iff` : what a search finds
* `sources_fault`, `sources_unreadable` : where it ends
* `sources_skip`, `sources_shadowed` : what it does not depend on
-/

namespace ImageRecipe.Template

variable {directories : List (Option Directory)} {name : String}

/-! ## Layers -/

/-- The first file of a name among what a walk meets: its text, or why there is none. -/
def fileOf? (name : String) : List (String × Item) → Option (Except InputOutputError String)
  | [] => none
  | (_, .fault ..) :: rest => fileOf? name rest
  | (path, .file text) :: rest => if path = name then some text else fileOf? name rest

/-- The file of a name in the first directory that has one. -/
def provided? (directories : List (Option Directory)) (name : String) :
    Option (Except InputOutputError String) :=
  directories.findSome? fun directory => directory.bind fun d => fileOf? name d.entries

/-- The built-in template as a directory of its own. -/
def builtinDirectory : Directory := ⟨[(defaultName, .file (.ok builtinText))]⟩

/-- The search directories with the built-in template behind them. -/
def withBuiltin (directories : List (Option Directory)) : List (Option Directory) :=
  directories ++ [some builtinDirectory]

/-- What the walks through search directories meet, one after the other. -/
def items (directories : List (Option Directory)) : List (String × Item) :=
  directories.flatMap fun directory => (directory.map Mapping.entries).getD []

/-- The walk can go on everywhere. -/
def Passable (met : List (String × Item)) : Prop :=
  ∀ path directory reason, (path, .fault directory reason) ∉ met

theorem items_append (before behind : List (Option Directory)) :
    items (before ++ behind) = items before ++ items behind := List.flatMap_append

theorem items_some (directory : Directory) (rest : List (Option Directory)) :
    items (some directory :: rest) = directory.entries ++ items rest := rfl

theorem mem_items_iff {e : String × Item} :
    e ∈ items directories ↔ ∃ directory, some directory ∈ directories ∧ e ∈ directory.entries := by
  rw [items, List.mem_flatMap]
  constructor
  · rintro ⟨directory, hmem, he⟩
    cases directory with
    | none => cases he
    | some directory => exact ⟨directory, hmem, he⟩
  · rintro ⟨directory, hmem, he⟩
    exact ⟨some directory, hmem, he⟩

theorem fileOf?_append (before behind : List (String × Item)) :
    fileOf? name (before ++ behind) = (fileOf? name before).or (fileOf? name behind) := by
  induction before with
  | nil => rfl
  | cons e rest ih =>
      obtain ⟨path, item⟩ := e
      cases item with
      | fault directory reason => exact ih
      | file text =>
          rw [List.cons_append, fileOf?, fileOf?]
          by_cases hpath : path = name
          · rw [if_pos hpath, if_pos hpath]
            rfl
          · rw [if_neg hpath, if_neg hpath, ih]

theorem fileOf?_of_notMem {met : List (String × Item)} (h : name ∉ met.map Prod.fst) :
    fileOf? name met = none := by
  induction met with
  | nil => rfl
  | cons e rest ih =>
      obtain ⟨path, item⟩ := e
      rw [List.map_cons, List.mem_cons, not_or] at h
      cases item with
      | fault directory reason => exact ih h.2
      | file text => rw [fileOf?, if_neg (Ne.symm h.1), ih h.2]

/-- Where the walk can go on everywhere, each name that it meets is that of a file. -/
theorem fileOf?_eq_none_iff {met : List (String × Item)} (h : Passable met) :
    fileOf? name met = none ↔ name ∉ met.map Prod.fst := by
  refine ⟨fun hnone => ?_, fileOf?_of_notMem⟩
  induction met with
  | nil => exact List.not_mem_nil
  | cons e rest ih =>
      obtain ⟨path, item⟩ := e
      cases item with
      | fault directory reason => exact absurd List.mem_cons_self (h path directory reason)
      | file text =>
          have hrest : Passable rest := fun path directory reason hmem =>
            h path directory reason (List.mem_cons_of_mem _ hmem)
          rw [fileOf?] at hnone
          by_cases hpath : path = name
          · rw [if_pos hpath] at hnone
            cases hnone
          · rw [if_neg hpath] at hnone
            rw [List.map_cons, List.mem_cons, not_or]
            exact ⟨Ne.symm hpath, ih hrest hnone⟩

/-- All directories provide what one directory would. -/
theorem provided?_eq (directories : List (Option Directory)) (name : String) :
    provided? directories name = fileOf? name (items directories) := by
  induction directories with
  | nil => rfl
  | cons first rest ih =>
      cases first with
      | none => exact ih
      | some directory =>
          rw [items_some, fileOf?_append, ← ih, provided?, List.findSome?_cons, Option.bind_some,
            provided?]
          cases fileOf? name directory.entries <;> rfl

theorem provided?_eq_none
    (h : ∀ directory, some directory ∈ directories → name ∉ directory.keys) :
    provided? directories name = none := by
  rw [provided?_eq]
  apply fileOf?_of_notMem
  rintro hmem
  obtain ⟨e, he, rfl⟩ := List.mem_map.mp hmem
  obtain ⟨directory, hdirectory, hentry⟩ := mem_items_iff.mp he
  exact h directory hdirectory (List.mem_map_of_mem hentry)

/-- The built-in template is used for its name if no directory has a file for it. -/
theorem provided?_withBuiltin (directories : List (Option Directory)) (name : String) :
    provided? (withBuiltin directories) name =
      (provided? directories name).or
        (if defaultName = name then some (.ok builtinText) else none) := by
  rw [provided?_eq, withBuiltin, items_append, fileOf?_append, ← provided?_eq]
  rfl

theorem provided?_withBuiltin_eq_ok_iff {text : String} :
    provided? (withBuiltin directories) name = some (.ok text) ↔
      provided? directories name = some (.ok text) ∨
        name = defaultName ∧ text = builtinText ∧ provided? directories name = none := by
  rw [provided?_withBuiltin]
  cases provided? directories name with
  | none => simp [eq_comm]
  | some file => simp

/-- The built-in template is a text. -/
theorem provided?_withBuiltin_eq_error_iff {e : InputOutputError} :
    provided? (withBuiltin directories) name = some (.error e) ↔
      provided? directories name = some (.error e) := by
  rw [provided?_withBuiltin]
  cases provided? directories name with
  | none => simp
  | some file => simp

/-! ## What is taken -/

section Files

variable {found taken : Mapping String} {path : String} {met : List (String × Item)}

/-- A file whose name is taken is passed over, whatever it holds. -/
theorem takeFiles_held {old : String} (h : found.get? path = some old)
    (text : Except InputOutputError String) (met : List (String × Item)) :
    takeFiles found ((path, .file text) :: met) = takeFiles found met := by
  rw [takeFiles.eq_def]
  exact if_pos (Mapping.contains_of_get? h)

/-- A file whose name is free is taken if it is a text. -/
theorem takeFiles_free (h : found.get? path = none) (text : Except InputOutputError String)
    (met : List (String × Item)) :
    takeFiles found ((path, .file text) :: met) =
      match text with
      | .error e => .error (.inputOutput e)
      | .ok text => takeFiles (found.insert path text) met := by
  have hfree : ¬found.contains path = true := by
    rw [Mapping.contains_eq_isSome, h]
    exact Bool.false_ne_true
  rw [takeFiles.eq_def]
  exact if_neg hfree

theorem takeFiles_append (found : Mapping String) (before behind : List (String × Item)) :
    takeFiles found (before ++ behind) = (takeFiles found before).bind (takeFiles · behind) := by
  induction before generalizing found with
  | nil => rfl
  | cons e rest ih =>
      obtain ⟨path, item⟩ := e
      cases item with
      | fault directory reason => rfl
      | file text =>
          cases hpath : found.get? path with
          | some old => rw [List.cons_append, takeFiles_held hpath, takeFiles_held hpath, ih]
          | none =>
              rw [List.cons_append, takeFiles_free hpath, takeFiles_free hpath]
              cases text with
              | error e => rfl
              | ok text => exact ih _

/-- A name keeps what was taken for it, and else has what the walk has for it. -/
theorem get?_takeFiles (h : takeFiles found met = .ok taken) (name : String) :
    (taken.get? name).map Except.ok = ((found.get? name).map Except.ok).or (fileOf? name met) := by
  induction met generalizing found with
  | nil =>
      cases h
      exact Option.or_none.symm
  | cons e rest ih =>
      obtain ⟨path, item⟩ := e
      cases item with
      | fault directory reason => cases h
      | file text =>
          cases hpath : found.get? path with
          | some old =>
              rw [takeFiles_held hpath] at h
              rw [ih h, fileOf?]
              by_cases hname : path = name
              · subst hname
                rw [hpath]
                rfl
              · rw [if_neg hname]
          | none =>
              rw [takeFiles_free hpath] at h
              cases text with
              | error e => cases h
              | ok text =>
                  rw [ih h, Mapping.get?_insert, fileOf?]
                  by_cases hname : path = name
                  · subst hname
                    rw [if_pos rfl, if_pos rfl, hpath]
                    rfl
                  · rw [if_neg hname, if_neg hname]

/-- A search that succeeds has seen everything. -/
theorem passable_of_takeFiles (h : takeFiles found met = .ok taken) : Passable met := by
  intro path directory reason hmem
  obtain ⟨before, behind, rfl⟩ := List.append_of_mem hmem
  rw [takeFiles_append] at h
  obtain ⟨between, -, hrest⟩ := Results.of_bind h
  cases hrest

/-- A search ends where the walk cannot go on, or at a file that is no text and whose name is
free. -/
theorem takeFiles_error {failure : Failure} (h : takeFiles found met = .error failure) :
    (∃ path directory reason, (path, .fault directory reason) ∈ met ∧
      failure = .template (.scan directory reason)) ∨
    ∃ name e, found.get? name = none ∧ fileOf? name met = some (.error e) ∧
      failure = .inputOutput e := by
  induction met generalizing found with
  | nil => cases h
  | cons first rest ih =>
      obtain ⟨path, item⟩ := first
      -- what ends the search behind the first one ends it for both
      have hbehind : (∃ path directory reason, (path, .fault directory reason) ∈ rest ∧
            failure = .template (.scan directory reason)) →
          ∃ other directory reason, (other, .fault directory reason) ∈ (path, item) :: rest ∧
            failure = .template (.scan directory reason) := by
        rintro ⟨other, directory, reason, hmem, hfailure⟩
        exact ⟨other, directory, reason, List.mem_cons_of_mem _ hmem, hfailure⟩
      cases item with
      | fault directory reason =>
          cases h
          exact .inl ⟨path, directory, reason, List.mem_cons_self, rfl⟩
      | file text =>
          cases hpath : found.get? path with
          | some old =>
              rw [takeFiles_held hpath] at h
              refine (ih h).imp hbehind ?_
              rintro ⟨name, e, hfree, hname, hfailure⟩
              have hne : path ≠ name := by
                rintro rfl
                rw [hpath] at hfree
                cases hfree
              exact ⟨name, e, hfree, by rw [fileOf?, if_neg hne, hname], hfailure⟩
          | none =>
              rw [takeFiles_free hpath] at h
              cases text with
              | error e =>
                  cases h
                  exact .inr ⟨path, e, hpath, if_pos rfl, rfl⟩
              | ok text =>
                  refine (ih h).imp hbehind ?_
                  rintro ⟨name, e, hfree, hname, hfailure⟩
                  rw [Mapping.get?_insert] at hfree
                  have hne : path ≠ name := fun heq => by simp [heq] at hfree
                  rw [if_neg hne] at hfree
                  exact ⟨name, e, hfree, by rw [fileOf?, if_neg hne, hname], hfailure⟩

theorem distinct_takeFiles (h : takeFiles found met = .ok taken) (hfound : found.Distinct) :
    taken.Distinct := by
  induction met generalizing found with
  | nil =>
      cases h
      exact hfound
  | cons e rest ih =>
      obtain ⟨path, item⟩ := e
      cases item with
      | fault directory reason => cases h
      | file text =>
          cases hpath : found.get? path with
          | some old =>
              rw [takeFiles_held hpath] at h
              exact ih h hfound
          | none =>
              rw [takeFiles_free hpath] at h
              cases text with
              | error e => cases h
              | ok text => exact ih h (Mapping.distinct_insert hfound path text)

/-- A file under a name that is taken can be changed at will. -/
theorem takeFiles_insertEntry {old : String} (h : found.get? name = some old)
    (text : Except InputOutputError String)
    (hfile : ∀ directory reason, Mapping.findEntry name met ≠ some (.fault directory reason)) :
    takeFiles found (Mapping.insertEntry name (.file text) met) = takeFiles found met := by
  induction met generalizing found with
  | nil => exact takeFiles_held h text []
  | cons e rest ih =>
      obtain ⟨path, item⟩ := e
      rw [Mapping.insertEntry]
      by_cases hname : path = name
      · subst hname
        rw [if_pos rfl, takeFiles_held h]
        cases item with
        | fault directory reason => exact absurd (if_pos rfl) (hfile directory reason)
        | file other => rw [takeFiles_held h]
      · rw [if_neg hname]
        have hrest : ∀ directory reason,
            Mapping.findEntry name rest ≠ some (.fault directory reason) := by
          intro directory reason hfault
          exact hfile directory reason (by rw [Mapping.findEntry, if_neg hname, hfault])
        cases item with
        | fault directory reason => rfl
        | file other =>
            cases hpath : found.get? path with
            | some value => rw [takeFiles_held hpath, takeFiles_held hpath, ih h hrest]
            | none =>
                rw [takeFiles_free hpath, takeFiles_free hpath]
                cases other with
                | error e => rfl
                | ok value =>
                    have hkept : (found.insert path value).get? name = some old := by
                      rw [Mapping.get?_insert, if_neg hname, h]
                    exact ih hkept hrest

end Files

/-! ## All directories -/

theorem gather_append (found : Mapping String) (before behind : List (Option Directory)) :
    gather found (before ++ behind) = (gather found before).bind (gather · behind) := by
  induction before generalizing found with
  | nil => rfl
  | cons first rest ih =>
      cases first with
      | none => exact ih found
      | some directory =>
          rw [List.cons_append, gather, gather]
          cases takeFiles found directory.entries with
          | error e => rfl
          | ok next => exact ih next

/-- A search takes from all directories as from one. -/
theorem gather_eq_takeFiles (found : Mapping String) (directories : List (Option Directory)) :
    gather found directories = takeFiles found (items directories) := by
  induction directories generalizing found with
  | nil => rfl
  | cons first rest ih =>
      cases first with
      | none => exact ih found
      | some directory =>
          rw [gather, items_some, takeFiles_append]
          cases takeFiles found directory.entries with
          | error e => rfl
          | ok next => exact ih next

/-! ## The search -/

/-- The built-in template is one more directory, behind the others. -/
theorem sources_eq (directories : List (Option Directory)) :
    sources directories = (takeFiles .empty (items (withBuiltin directories))).map
      fun found => found.entries.mergeSort fun a b => !(b.1 < a.1) := by
  rw [sources, ← gather_eq_takeFiles, withBuiltin, gather_append]
  cases gather .empty directories with
  | error e => rfl
  | ok found =>
      by_cases hfound : found.contains defaultName = true
      · simp [Except.map, Except.bind, gather, builtinDirectory, takeFiles, completed, hfound]
      · simp [Except.map, Except.bind, gather, builtinDirectory, takeFiles, completed, hfound]

/-- The texts that a search finds: under each name, in ascending order, what the first directory
with that name has, or the built-in text. -/
structure Catalogue (directories : List (Option Directory)) (texts : List (String × String)) :
    Prop where
  ascending : texts.Pairwise fun a b => a.1 < b.1
  mem_iff : ∀ name text, (name, text) ∈ texts ↔
    provided? directories name = some (.ok text) ∨
      name = defaultName ∧ text = builtinText ∧ provided? directories name = none

variable {texts : List (String × String)}

/-- There is one catalogue: what is in it is given, and its order too. -/
theorem Catalogue.unique {others : List (String × String)} (h : Catalogue directories texts)
    (hothers : Catalogue directories others) : texts = others := by
  have : Std.Antisymm fun a b : String × String => a.1 < b.1 :=
    ⟨fun _ _ hab hba => absurd hab (String.lt_asymm hba)⟩
  have : Std.Irrefl fun a b : String × String => a.1 < b.1 := ⟨fun a => String.lt_irrefl a.1⟩
  refine h.ascending.eq_of_mem_iff hothers.ascending fun ⟨name, text⟩ => ?_
  rw [h.mem_iff, hothers.mem_iff]

theorem Catalogue.ascending_names (h : Catalogue directories texts) :
    (texts.map Prod.fst).Pairwise (· < ·) :=
  List.pairwise_map.mpr h.ascending

theorem Catalogue.nodup_names (h : Catalogue directories texts) : (texts.map Prod.fst).Nodup :=
  h.ascending_names.imp String.ne_of_lt

theorem Catalogue.mem_builtin (h : Catalogue directories texts)
    (hnone : provided? directories defaultName = none) : (defaultName, builtinText) ∈ texts :=
  (h.mem_iff defaultName builtinText).mpr (.inr ⟨rfl, rfl, hnone⟩)

/-- The names are those of all files, and that of the built-in template. -/
theorem Catalogue.mem_names_iff (h : Catalogue directories texts)
    (hpassable : Passable (items directories))
    (htexts : ∀ name e, provided? directories name ≠ some (.error e)) (name : String) :
    name ∈ texts.map Prod.fst ↔
      name = defaultName ∨ ∃ directory, some directory ∈ directories ∧ name ∈ directory.keys := by
  have hprovided : (∃ directory, some directory ∈ directories ∧ name ∈ directory.keys) ↔
      provided? directories name ≠ none := by
    rw [ne_eq, provided?_eq, fileOf?_eq_none_iff hpassable, not_not, List.mem_map]
    simp only [mem_items_iff, Mapping.keys, List.mem_map]
    constructor
    · rintro ⟨directory, hdirectory, e, he, hname⟩
      exact ⟨e, ⟨directory, hdirectory, he⟩, hname⟩
    · rintro ⟨e, ⟨directory, hdirectory, he⟩, hname⟩
      exact ⟨directory, hdirectory, e, he, hname⟩
  have hmem : name ∈ texts.map Prod.fst ↔ ∃ text, (name, text) ∈ texts := by simp
  rw [hmem, hprovided]
  simp only [h.mem_iff]
  cases hname : provided? directories name with
  | none => simp
  | some file =>
      cases file with
      | error e => exact absurd hname (htexts name e)
      | ok text => simp

theorem not_decide_lt_iff {a b : String} : (!decide (b < a)) = true ↔ a ≤ b := by
  rw [Bool.not_eq_true', decide_eq_false_iff_not, String.not_lt]

/-- Sorting by keys that differ leaves the keys ascending. -/
theorem pairwise_mergeSort_of_nodup {α : Type} (key : α → String) {xs : List α}
    (h : (xs.map key).Nodup) :
    (xs.mergeSort fun a b => !(key b < key a)).Pairwise fun a b => key a < key b := by
  have hsorted : (xs.mergeSort fun a b => !(key b < key a)).Pairwise
      fun a b => (!decide (key b < key a)) = true := by
    apply List.pairwise_mergeSort
    · intro a b c hab hbc
      rw [not_decide_lt_iff] at hab hbc ⊢
      exact String.le_trans hab hbc
    · intro a b
      rw [Bool.or_eq_true, not_decide_lt_iff, not_decide_lt_iff]
      exact String.le_total (key a) (key b)
  have hnodup : (xs.mergeSort fun a b => !(key b < key a)).Pairwise
      fun a b => key a ≠ key b := by
    rw [← List.pairwise_map]
    exact ((List.mergeSort_perm _ _).map key).nodup_iff.mpr h
  refine (hsorted.and hnodup).imp fun ⟨hle, hne⟩ => ?_
  rw [not_decide_lt_iff] at hle
  exact String.not_le.mp fun hge => hne (String.le_antisymm hle hge)

theorem passable_withBuiltin_iff :
    Passable (items (withBuiltin directories)) ↔ Passable (items directories) := by
  unfold Passable
  rw [withBuiltin, items_append]
  simp [items, builtinDirectory]

theorem catalogue_of_sources (h : sources directories = .ok texts) :
    Passable (items directories) ∧ (∀ name e, provided? directories name ≠ some (.error e)) ∧
      Catalogue directories texts := by
  rw [sources_eq] at h
  obtain ⟨taken, htake, rfl⟩ := Results.of_map h
  have hdistinct := distinct_takeFiles htake Mapping.distinct_empty
  have hget : ∀ name, (taken.get? name).map Except.ok =
      provided? (withBuiltin directories) name := fun name =>
    (get?_takeFiles htake name).trans (provided?_eq _ name).symm
  refine ⟨passable_withBuiltin_iff.mp (passable_of_takeFiles htake), fun name e hname => ?_,
    pairwise_mergeSort_of_nodup Prod.fst hdistinct, fun name text => ?_⟩
  · rw [← provided?_withBuiltin_eq_error_iff, ← hget] at hname
    cases htaken : taken.get? name <;> simp [htaken] at hname
  · rw [List.mem_mergeSort, ← Mapping.get?_eq_some_iff hdistinct,
      ← provided?_withBuiltin_eq_ok_iff, ← hget]
    cases taken.get? name <;> simp

/-- A search fails for a directory that cannot be walked through, or for a file that is provided and
is no text. -/
theorem sources_error {failure : Failure} (h : sources directories = .error failure) :
    (∃ path directory reason, (path, .fault directory reason) ∈ items directories ∧
      failure = .template (.scan directory reason)) ∨
    ∃ name e, provided? directories name = some (.error e) ∧ failure = .inputOutput e := by
  rw [sources_eq] at h
  refine (takeFiles_error (Results.error_of_map h)).imp ?_ ?_
  · rintro ⟨path, directory, reason, hmem, hfailure⟩
    refine ⟨path, directory, reason, ?_, hfailure⟩
    rw [withBuiltin, items_append, List.mem_append] at hmem
    exact hmem.resolve_right (by simp [items, builtinDirectory])
  · rintro ⟨name, e, -, hname, hfailure⟩
    rw [← provided?_eq] at hname
    exact ⟨name, e, provided?_withBuiltin_eq_error_iff.mp hname, hfailure⟩

/-- A search succeeds if all walks reach their ends and all files that it takes are texts, and finds
the catalogue. -/
theorem sources_eq_ok_iff :
    sources directories = .ok texts ↔
      Passable (items directories) ∧ (∀ name e, provided? directories name ≠ some (.error e)) ∧
        Catalogue directories texts := by
  refine ⟨catalogue_of_sources, fun ⟨hpassable, htexts, hcatalogue⟩ => ?_⟩
  cases hsources : sources directories with
  | error failure =>
      rcases sources_error hsources with ⟨path, directory, reason, hmem, -⟩ | ⟨name, e, hname, -⟩
      · exact absurd hmem (hpassable path directory reason)
      · exact absurd hname (htexts name e)
  | ok found => rw [(catalogue_of_sources hsources).2.2.unique hcatalogue]

/-- Directories that can be searched have a catalogue. -/
theorem exists_catalogue (hpassable : Passable (items directories))
    (htexts : ∀ name e, provided? directories name ≠ some (.error e)) :
    ∃ texts, Catalogue directories texts := by
  cases hsources : sources directories with
  | error failure =>
      rcases sources_error hsources with ⟨path, directory, reason, hmem, -⟩ | ⟨name, e, hname, -⟩
      · exact absurd hmem (hpassable path directory reason)
      · exact absurd hname (htexts name e)
  | ok texts => exact ⟨texts, (catalogue_of_sources hsources).2.2⟩

/-! ## Where a search ends -/

/-- What the search has passed before it comes to the rest. -/
theorem sources_of_split {before behind : List (String × Item)} {taken : Mapping String}
    {failure : Failure} (hitems : items directories = before ++ behind)
    (hbefore : takeFiles .empty before = .ok taken)
    (hbehind : takeFiles taken behind = .error failure) :
    sources directories = .error failure := by
  have htake : takeFiles .empty (items directories) = .error failure := by
    rw [hitems, takeFiles_append, hbefore]
    exact hbehind
  rw [sources, gather_eq_takeFiles, htake]
  rfl

/-- What can be passed: everything up to a place where the walk cannot go on, if all files that are
taken up to there are texts. -/
theorem exists_takeFiles {met : List (String × Item)} (hpassable : Passable met)
    (htexts : ∀ name e, fileOf? name met ≠ some (.error e)) :
    ∃ taken, takeFiles .empty met = .ok taken := by
  cases htake : takeFiles .empty met with
  | error failure =>
      rcases takeFiles_error htake with ⟨path, directory, reason, hmem, -⟩ | ⟨name, e, -, hname, -⟩
      · exact absurd hmem (hpassable path directory reason)
      · exact absurd hname (htexts name e)
  | ok taken => exact ⟨taken, rfl⟩

/-- The first place where a walk cannot go on ends the search, whatever its name stands for, unless
a file before it does. -/
theorem sources_fault {before behind : List (String × Item)} {path directory reason : String}
    (hitems : items directories = before ++ (path, .fault directory reason) :: behind)
    (hpassable : Passable before) (htexts : ∀ name e, fileOf? name before ≠ some (.error e)) :
    sources directories = .error (.template (.scan directory reason)) := by
  obtain ⟨taken, htake⟩ := exists_takeFiles hpassable htexts
  exact sources_of_split hitems htake rfl

/-- Where all walks reach their ends, a file that is provided and is no text ends the search. -/
theorem sources_unreadable {e : InputOutputError} (hpassable : Passable (items directories))
    (hname : provided? directories name = some (.error e)) :
    ∃ other cause, provided? directories other = some (.error cause) ∧
      sources directories = .error (.inputOutput cause) := by
  cases hsources : sources directories with
  | ok texts => exact absurd hname ((catalogue_of_sources hsources).2.1 name e)
  | error failure =>
      rcases sources_error hsources with ⟨path, directory, reason, hmem, -⟩ | ⟨other, cause, h, rfl⟩
      · exact absurd hmem (hpassable path directory reason)
      · exact ⟨other, cause, h, rfl⟩

/-! ## What a search does not depend on -/

/-- What is no directory is skipped. -/
theorem sources_skip (before behind : List (Option Directory)) :
    sources (before ++ none :: behind) = sources (before ++ behind) := by
  have hitems : items (before ++ none :: behind) = items (before ++ behind) := by
    rw [items_append, items_append]
    rfl
  rw [sources, sources, gather_eq_takeFiles, gather_eq_takeFiles, hitems]

/-- A file that an earlier directory shadows can hold anything. -/
theorem sources_shadowed {before : List (Option Directory)} {earlier : Directory}
    (hearlier : some earlier ∈ before) (hname : name ∈ earlier.keys) (directory : Directory)
    (hfile : ∀ top reason, directory.get? name ≠ some (.fault top reason))
    (text : Except InputOutputError String) (behind : List (Option Directory)) :
    sources (before ++ some (directory.insert name (.file text)) :: behind) =
      sources (before ++ some directory :: behind) := by
  rw [sources, sources, gather_append, gather_append, gather_eq_takeFiles .empty before]
  cases htake : takeFiles .empty (items before) with
  | error failure => rfl
  | ok taken =>
      -- everything before has been seen, so the name is that of a file, and taken
      have hpassable := passable_of_takeFiles htake
      have hheld : ∃ old, taken.get? name = some old := by
        have hget : (taken.get? name).map Except.ok = fileOf? name (items before) :=
          get?_takeFiles htake name
        cases htaken : taken.get? name with
        | some old => exact ⟨old, rfl⟩
        | none =>
            rw [htaken, Option.map_none, eq_comm, fileOf?_eq_none_iff hpassable] at hget
            obtain ⟨e, he, rfl⟩ := List.mem_map.mp hname
            exact absurd (List.mem_map_of_mem (mem_items_iff.mpr ⟨earlier, hearlier, he⟩)) hget
      obtain ⟨old, hold⟩ := hheld
      have hfiles : takeFiles taken (directory.insert name (.file text)).entries =
          takeFiles taken directory.entries := takeFiles_insertEntry hold text hfile
      have hgather : gather taken (some (directory.insert name (.file text)) :: behind) =
          gather taken (some directory :: behind) := by
        rw [gather, gather, hfiles]
      exact congrArg (Except.map _) hgather

end ImageRecipe.Template
