import Mathlib.Data.List.Nodup
import ImageRecipe.Proofs.Mapping
import ImageRecipe.Proofs.Value.Distinct
import ImageRecipe.Proofs.Value.Json

/-!
# What templates see of a document

A root is split in two, the instructions and the entries beside them, and what templates see puts
the two together again, with the variables on top.  What is seen is the tree of one mapping, so that
reading it back is the round trip of that mapping.

* `Mapping.without` : the entries under the other keys
* `Document.ofValue_of_get?_none`, `Document.ofValue_of_get?` : how a root is split
* `Document.scope`, `Document.object_context` : the mapping that templates see
* `Document.Shows`, `Document.context_shows` : what is there for templates, and when nothing is
-/

namespace ImageRecipe

/-! ## One key left out -/

namespace Mapping

variable {α : Type}

/-- The entries under the other keys. -/
def without (m : Mapping α) (key : String) : Mapping α := ⟨m.entries.filter fun e => e.1 ≠ key⟩

theorem keys_without (m : Mapping α) (key : String) :
    (m.without key).keys = m.keys.filter fun name => name ≠ key := by
  rw [keys, keys, List.filter_map]
  rfl

theorem notMem_keys_without (m : Mapping α) (key : String) : key ∉ (m.without key).keys := by
  simp [keys_without]

theorem distinct_without {m : Mapping α} (h : m.Distinct) (key : String) :
    (m.without key).Distinct := by
  unfold Distinct at h ⊢
  rw [keys_without]
  exact h.filter _

/-- The other keys keep their values. -/
theorem get?_without {m : Mapping α} {key other : String} (h : other ≠ key) :
    (m.without key).get? other = m.get? other := by
  obtain ⟨entries⟩ := m
  simp only [without, get?]
  induction entries with
  | nil => rfl
  | cons e rest ih =>
      obtain ⟨name, value⟩ := e
      by_cases hname : name = key
      · subst hname
        rw [List.filter_cons_of_neg (by simp), findEntry, if_neg (Ne.symm h), ih]
      · rw [List.filter_cons_of_pos (by simpa using hname), findEntry, findEntry, ih]

theorem without_of_notMem {m : Mapping α} {key : String} (h : key ∉ m.keys) :
    m.without key = m := by
  have hkept : m.entries.filter (fun e => e.1 ≠ key) = m.entries :=
    List.filter_eq_self.mpr fun e he => by
      have hne : e.1 ≠ key := fun heq => h (heq ▸ List.mem_map_of_mem he)
      simpa using hne
  exact congrArg Mapping.mk hkept

/-- A key stands in one place, with other keys before it and behind it. -/
theorem exists_split_of_get? {m : Mapping α} (h : m.Distinct) {key : String} {value : α}
    (hget : m.get? key = some value) :
    ∃ before behind, m.entries = before ++ (key, value) :: behind ∧
      key ∉ before.map Prod.fst ∧ key ∉ behind.map Prod.fst ∧
      m.without key = ⟨before ++ behind⟩ := by
  obtain ⟨before, behind, hsplit⟩ := List.append_of_mem (mem_of_get? hget)
  have hkeys : (before.map Prod.fst ++ key :: behind.map Prod.fst).Nodup := by
    have hdistinct : (m.entries.map Prod.fst).Nodup := h
    simpa [hsplit] using hdistinct
  obtain ⟨hnew, -⟩ := List.nodup_cons.mp (List.nodup_middle.mp hkeys)
  obtain ⟨hbefore, hbehind⟩ := not_or.mp (fun hmem => hnew (List.mem_append.mpr hmem))
  have hbefore_kept := without_of_notMem (m := ⟨before⟩) hbefore
  have hbehind_kept := without_of_notMem (m := ⟨behind⟩) hbehind
  refine ⟨before, behind, hsplit, hbefore, hbehind, congrArg Mapping.mk ?_⟩
  rw [hsplit, List.filter_append, List.filter_cons_of_neg (by simp)]
  exact congrArg₂ (· ++ ·) (congrArg entries hbefore_kept) (congrArg entries hbehind_kept)

end Mapping

/-! ## One entry more -/

namespace Value

theorem entriesToJson_insertEntry (key : String) (value : Value)
    (entries : List (String × Value)) :
    entriesToJson (Mapping.insertEntry key value entries) =
      Mapping.insertEntry key value.toJson (entriesToJson entries) := by
  induction entries with
  | nil => rfl
  | cons e rest ih =>
      obtain ⟨name, old⟩ := e
      by_cases hname : name = key
      · rw [Mapping.insertEntry, if_pos hname, entriesToJson, entriesToJson, Mapping.insertEntry,
          if_pos hname]
      · rw [Mapping.insertEntry, if_neg hname, entriesToJson, entriesToJson, Mapping.insertEntry,
          if_neg hname, ih]

theorem findEntry_finiteEntries (key : String) (entries : List (String × Value)) :
    Mapping.findEntry key (finiteEntries entries) =
      (Mapping.findEntry key entries).map finite := by
  induction entries with
  | nil => rfl
  | cons e rest ih =>
      obtain ⟨name, value⟩ := e
      by_cases hname : name = key
      · rw [finiteEntries, Mapping.findEntry, Mapping.findEntry, if_pos hname, if_pos hname]
        rfl
      · rw [finiteEntries, Mapping.findEntry, Mapping.findEntry, if_neg hname, if_neg hname, ih]

theorem distinct_mapping_insert {m : Mapping Value} (hm : (Value.mapping m).Distinct)
    (key : String) {value : Value} (hvalue : value.Distinct) :
    (Value.mapping (m.insert key value)).Distinct := by
  obtain ⟨hkeys, hvalues⟩ := distinct_mapping_iff.mp hm
  refine distinct_mapping_iff.mpr ⟨Mapping.distinct_insert hkeys key value, fun e he => ?_⟩
  rcases Mapping.mem_insertEntry he with heq | hmem
  · exact heq ▸ hvalue
  · exact hvalues e hmem

theorem distinct_mapping_without {m : Mapping Value} (hm : (Value.mapping m).Distinct)
    (key : String) : (Value.mapping (m.without key)).Distinct := by
  obtain ⟨hkeys, hvalues⟩ := distinct_mapping_iff.mp hm
  refine distinct_mapping_iff.mpr ⟨Mapping.distinct_without hkeys key, fun e he => ?_⟩
  exact hvalues e (List.mem_filter.mp he).1

end Value

namespace Document

/-! ## How a root is split -/

/-- The instruction objects that a value under their key stands for. -/
def instructionItems : Value → Except DocumentError (List Value)
  | .sequence items => .ok items
  | .null => .ok []
  | other => .error (.instructionsNotSequence other.kind)

theorem instructionItems_eq_error_iff {v : Value} {e : DocumentError} :
    instructionItems v = .error e ↔
      v ≠ .null ∧ (∀ items, v ≠ .sequence items) ∧ e = .instructionsNotSequence v.kind := by
  cases v <;> simp [instructionItems, eq_comm]

/-- The instruction objects of a root, none if nothing stands under their key. -/
def instructionObjects (m : Mapping Value) : List Value :=
  match m.get? instructionsKey with
  | some (.sequence items) => items
  | _ => []

/-- Entries under other keys than that of the instructions are kept beside them. -/
theorem addEntries_append {others : List (String × Value)}
    (h : instructionsKey ∉ others.map Prod.fst) (d : Document) (rest : List (String × Value)) :
    d.addEntries (others ++ rest) =
      addEntries { d with extra := d.extra.extend ⟨others⟩ } rest := by
  induction others generalizing d with
  | nil => rfl
  | cons e more ih =>
      obtain ⟨key, value⟩ := e
      rw [List.map_cons, List.mem_cons, not_or] at h
      have hkept : d.addEntries ((key, value) :: (more ++ rest)) =
          addEntries { d with extra := d.extra.insert key value } (more ++ rest) := by
        rw [addEntries.eq_def]
        exact if_pos (Ne.symm h.1)
      rw [List.cons_append, hkept, ih h.2]
      rfl

/-- The entry under that key is the one that can be wrong. -/
theorem addEntries_instructions (d : Document) (v : Value) (rest : List (String × Value)) :
    d.addEntries ((instructionsKey, v) :: rest) =
      (instructionItems v).bind fun items => addEntries { d with instructions := items } rest := by
  cases v <;> rfl

/-- A root is the instruction objects under their key, and the entries under the other keys. -/
theorem ofValue_mapping {m : Mapping Value} (h : m.Distinct) :
    ofValue (.mapping m) = ((m.get? instructionsKey).elim (.ok []) instructionItems).map
      fun items => ⟨m.without instructionsKey, items⟩ := by
  have hstart : ofValue (.mapping m) = addEntries empty m.entries := rfl
  rw [hstart]
  cases hget : m.get? instructionsKey with
  | none =>
      have hnew := Mapping.get?_eq_none_iff.mp hget
      have hextra : Mapping.empty.extend m = m := Mapping.ofList_eq h
      have hadd := addEntries_append hnew empty []
      rw [List.append_nil] at hadd
      rw [hadd, Mapping.without_of_notMem hnew]
      exact congrArg (fun extra => Except.ok (Document.mk extra [])) hextra
  | some v =>
      obtain ⟨before, behind, hsplit, hbefore, hbehind, hwithout⟩ :=
        Mapping.exists_split_of_get? h hget
      -- the keys on both sides are those of what is left, so that insertion appends them
      have hkeys : (before.map Prod.fst ++ behind.map Prod.fst).Nodup := by
        have hdistinct := Mapping.distinct_without h instructionsKey
        rw [hwithout] at hdistinct
        simpa [Mapping.Distinct, Mapping.keys] using hdistinct
      have hextra : (Mapping.empty.extend ⟨before⟩).extend ⟨behind⟩ = ⟨before ++ behind⟩ := by
        have hbeforeKeys := (List.nodup_append.mp hkeys).1
        rw [show Mapping.empty.extend ⟨before⟩ = ⟨before⟩ from Mapping.ofList_eq hbeforeKeys]
        exact Mapping.extend_eq ⟨before⟩ ⟨behind⟩ hkeys
      rw [hsplit, addEntries_append hbefore, addEntries_instructions, hwithout, Option.elim_some]
      cases instructionItems v with
      | error e => rfl
      | ok items =>
          have hadd := addEntries_append hbehind
            ⟨Mapping.empty.extend ⟨before⟩, items⟩ []
          rw [List.append_nil, hextra] at hadd
          exact hadd

/-- A split fails just where something else than instruction objects stands under their key. -/
theorem ofValue_eq_error_iff {m : Mapping Value} (h : m.Distinct) {e : DocumentError} :
    ofValue (.mapping m) = .error e ↔
      ∃ v, m.get? instructionsKey = some v ∧ v ≠ .null ∧ (∀ items, v ≠ .sequence items) ∧
        e = .instructionsNotSequence v.kind := by
  rw [ofValue_mapping h]
  cases hget : m.get? instructionsKey with
  | none => simp [Except.map]
  | some v =>
      rw [Option.elim_some]
      constructor
      · intro herror
        exact ⟨v, rfl, instructionItems_eq_error_iff.mp (Results.error_of_map herror)⟩
      · rintro ⟨other, hother, hwrong⟩
        rw [Option.some.inj hother, instructionItems_eq_error_iff.mpr hwrong]
        rfl

/-- A split that succeeds keeps all there is. -/
theorem eq_of_ofValue_mapping {m : Mapping Value} (h : m.Distinct) {d : Document}
    (hd : ofValue (.mapping m) = .ok d) :
    d = ⟨m.without instructionsKey, instructionObjects m⟩ := by
  rw [ofValue_mapping h] at hd
  obtain ⟨items, hitems, rfl⟩ := Results.of_map hd
  rw [instructionObjects]
  cases hget : m.get? instructionsKey with
  | none =>
      rw [hget] at hitems
      rw [← Except.ok.inj hitems]
  | some v =>
      rw [hget, Option.elim_some] at hitems
      cases v with
      | null | sequence => rw [← Except.ok.inj hitems]
      | bool | integer | float | string | mapping => cases hitems

/-! ## What is seen of a document -/

/-- The mapping whose tree templates see. -/
def scope (d : Document) (vars : Mapping Value) : Mapping Value :=
  (d.extra.insert instructionsKey (.sequence d.instructions)).insert variablesKey (.mapping vars)

theorem distinct_scope {d : Document} (hextra : (Value.mapping d.extra).Distinct)
    (hinstructions : d.Distinct) {vars : Mapping Value} (hvars : (Value.mapping vars).Distinct) :
    (Value.mapping (d.scope vars)).Distinct := by
  have hsequence : (Value.sequence d.instructions).Distinct := hinstructions
  exact Value.distinct_mapping_insert
    (Value.distinct_mapping_insert hextra instructionsKey hsequence) variablesKey hvars

/-- The tree is made entry by entry, just as the mapping. -/
theorem object_context {d : Document} (hextra : d.extra.Distinct) {vars : Mapping Value}
    (hscope : (d.scope vars).Distinct) :
    Json.object (d.context vars) = (Value.mapping (d.scope vars)).toJson := by
  have hmembers : Mapping.ofList (Value.entriesToJson d.extra.entries) =
      ⟨Value.entriesToJson d.extra.entries⟩ :=
    Mapping.ofList_eq (by rw [Value.keys_entriesToJson]; exact hextra)
  have htree : Mapping.ofList (Value.entriesToJson (d.scope vars).entries) =
      ⟨Value.entriesToJson (d.scope vars).entries⟩ :=
    Mapping.ofList_eq (by rw [Value.keys_entriesToJson]; exact hscope)
  have hentries : Value.entriesToJson (d.scope vars).entries = (d.context vars).entries := by
    rw [context, hmembers, scope, Mapping.insert, Mapping.insert, Value.entriesToJson_insertEntry,
      Value.entriesToJson_insertEntry]
    rfl
  rw [Value.toJson, htree, hentries]

/-- What is seen can be read back. -/
theorem ofJson_context {d : Document} (hextra : (Value.mapping d.extra).Distinct)
    (hinstructions : d.Distinct) {vars : Mapping Value} (hvars : (Value.mapping vars).Distinct) :
    Value.ofJson (.object (d.context vars)) =
      .ok (.mapping ⟨Value.finiteEntries (d.scope vars).entries⟩) := by
  have hscope := distinct_scope hextra hinstructions hvars
  obtain ⟨hkeys, -⟩ := Value.distinct_mapping_iff.mp hscope
  obtain ⟨hextraKeys, -⟩ := Value.distinct_mapping_iff.mp hextra
  rw [object_context hextraKeys hkeys, Value.ofJson_toJson _ hscope]
  rfl

/-- What a mapping that templates see shows of a root and of variables. -/
structure Shows (seen m vars : Mapping Value) : Prop where
  /-- The keys of the root in their order, then that of the instructions, then that of the
  variables; but if the root has this last one, it stays where it is. -/
  keys : seen.keys = m.keys.filter (fun key => key ≠ instructionsKey) ++
    instructionsKey :: (if variablesKey ∈ m.keys then [] else [variablesKey])
  /-- The instruction objects are a sequence, which is empty if there are none. -/
  instructions : seen.get? instructionsKey =
    some (Value.sequence (instructionObjects m)).finite
  /-- The variables come last, so that they hide what the root has under their name. -/
  onTop : seen.get? variablesKey = some (Value.mapping vars).finite
  /-- The other keys have the values of the root. -/
  others : ∀ key, key ≠ instructionsKey → key ≠ variablesKey →
    seen.get? key = (m.get? key).map Value.finite

theorem keys_scope (d : Document) (vars : Mapping Value) (h : instructionsKey ∉ d.extra.keys) :
    (d.scope vars).keys = d.extra.keys ++
      instructionsKey :: (if variablesKey ∈ d.extra.keys then [] else [variablesKey]) := by
  have hne : variablesKey ≠ instructionsKey := by decide
  have hmem : variablesKey ∈ d.extra.keys ++ [instructionsKey] ↔ variablesKey ∈ d.extra.keys := by
    simp [hne]
  rw [scope, Mapping.keys_insert, Mapping.keys_insert, if_neg h]
  by_cases hvariables : variablesKey ∈ d.extra.keys
  · rw [if_pos (hmem.mpr hvariables), if_pos hvariables]
  · rw [if_neg (mt hmem.mp hvariables), if_neg hvariables, List.append_assoc]
    rfl

theorem get?_scope (d : Document) (vars : Mapping Value) (key : String) :
    (d.scope vars).get? key =
      if variablesKey = key then some (.mapping vars)
      else if instructionsKey = key then some (.sequence d.instructions)
      else d.extra.get? key := by
  rw [scope, Mapping.get?_insert, Mapping.get?_insert]

/-- What is read back shows the root that was split. -/
theorem shows_scope (m vars : Mapping Value) :
    Shows ⟨Value.finiteEntries
      (scope ⟨m.without instructionsKey, instructionObjects m⟩ vars).entries⟩ m vars where
  keys := by
    have hne : variablesKey ≠ instructionsKey := by decide
    have hmem : variablesKey ∈ (m.without instructionsKey).keys ↔ variablesKey ∈ m.keys := by
      simp [Mapping.keys_without, hne]
    refine (Value.keys_finiteEntries _).trans ?_
    refine (keys_scope _ vars (m.notMem_keys_without instructionsKey)).trans ?_
    rw [Mapping.keys_without]
    simp only [← Mapping.keys_without, hmem]
  instructions := by
    rw [Mapping.get?, Value.findEntry_finiteEntries, ← Mapping.get?, get?_scope,
      if_neg (by decide), if_pos rfl]
    rfl
  onTop := by
    rw [Mapping.get?, Value.findEntry_finiteEntries, ← Mapping.get?, get?_scope, if_pos rfl]
    rfl
  others key hinstructions hvariables := by
    rw [Mapping.get?, Value.findEntry_finiteEntries, ← Mapping.get?, get?_scope,
      if_neg (Ne.symm hvariables), if_neg (Ne.symm hinstructions),
      Mapping.get?_without hinstructions]

/-- A root is split unless something else than instruction objects stands under their key, and then
nothing of it is lost: what templates see, read back, shows the root and the variables. -/
theorem context_shows {m : Mapping Value} (hm : (Value.mapping m).Distinct) :
    (∀ e, ofValue (.mapping m) = .error e ↔
      ∃ v, m.get? instructionsKey = some v ∧ v ≠ .null ∧ (∀ items, v ≠ .sequence items) ∧
        e = .instructionsNotSequence v.kind) ∧
    ∀ d, ofValue (.mapping m) = .ok d → ∀ vars, (Value.mapping vars).Distinct →
      ∃ seen, Value.ofJson (.object (d.context vars)) = .ok (.mapping seen) ∧
        Shows seen m vars := by
  obtain ⟨hkeys, -⟩ := Value.distinct_mapping_iff.mp hm
  refine ⟨fun e => ofValue_eq_error_iff hkeys, fun d hd vars hvars => ?_⟩
  have hinstructions : d.Distinct := distinct_of_ofValue hm hd
  rw [eq_of_ofValue_mapping hkeys hd] at hinstructions ⊢
  have hextra := Value.distinct_mapping_without hm instructionsKey
  exact ⟨_, ofJson_context hextra hinstructions hvars, shows_scope m vars⟩

/-- A root may have a key of the name of the variables: it keeps its place and loses its value. -/
theorem context_shows_own_variables :
    ∃ d seen,
      ofValue (.mapping ⟨[("variables", .null), ("instructions", .sequence [.string "RUN x"]),
        ("name", .string "a")]⟩) = .ok d ∧
      Value.ofJson (.object (d.context ⟨[("tag", .string "b")]⟩)) = .ok (.mapping seen) ∧
      seen.keys = ["variables", "name", "instructions"] ∧
      seen.get? "variables" = some (.mapping ⟨[("tag", .string "b")]⟩) := by
  have hroot : (Value.mapping ⟨[("variables", .null), ("instructions",
      .sequence [.string "RUN x"]), ("name", .string "a")]⟩).Distinct :=
    ⟨by decide, trivial, ⟨trivial, trivial⟩, trivial, trivial⟩
  have hvars : (Value.mapping ⟨[("tag", .string "b")]⟩).Distinct := ⟨by decide, trivial, trivial⟩
  obtain ⟨-, hsplit⟩ := context_shows hroot
  obtain ⟨seen, hseen, hshows⟩ := hsplit _ rfl _ hvars
  exact ⟨_, seen, rfl, hseen, hshows.keys.trans (by decide), hshows.onTop⟩

end Document

end ImageRecipe
