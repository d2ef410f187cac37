import ImageRecipe.Proofs.Instruction.Session

/-!
# Builds of the table

A registry builds its table when it is first needed, and keeps it until a registration succeeds or
the table is dropped on request.  So the requests and answers of a run tell at any time whether a
table is kept, and which answers show one and the same build.

* `Turn`, `Registry.turns` : a run, each request with its answer and the registry it leaves behind
* `Turn.drops`, `Turn.needsTable`, `Turn.renews` : what a turn does to the kept table
* `Turn.Change`, `Registry.change_turn` : all that one turn can do
* `NeededLast`, `Registry.isBuilt_after_iff` : when a table is kept
* `Registry.Numbered`, `Registry.BuildsFrom` : the numbers of the builds so far and of later ones
* `TableLife`, `session_tableLife` : the life of the table, in every run
-/

namespace ImageRecipe

/-! ## Runs, turn by turn -/

/-- A request, its answer, and the registry that is left behind. -/
structure Turn where
  request : Request
  reply : Reply
  left : Registry

namespace Registry

/-- One request to a registry. -/
def turn (r : Registry) (request : Request) : Turn :=
  ⟨request, (r.step request).1, (r.step request).2⟩

/-- A run, with the request of each answer. -/
def turns (r : Registry) (requests : List Request) : List Turn :=
  List.zipWith (fun request answer => ⟨request, answer.1, answer.2⟩) requests
    (r.runSession requests)

/-- What the last of some turns leaves behind; without any, the registry at the start. -/
def leftBy (r : Registry) (past : List Turn) : Registry := (past.getLast?.map Turn.left).getD r

theorem turns_cons (r : Registry) (request : Request) (rest : List Request) :
    r.turns (request :: rest) = r.turn request :: (r.turn request).left.turns rest := rfl

theorem after_cons (r : Registry) (request : Request) (rest : List Request) :
    r.after (request :: rest) = (r.turn request).left.after rest := rfl

theorem leftBy_cons (r : Registry) (first : Turn) (rest : List Turn) :
    r.leftBy (first :: rest) = first.left.leftBy rest := by
  rw [leftBy, leftBy, List.getLast?_cons]
  cases rest.getLast? <;> rfl

theorem leftBy_turns (r : Registry) (requests : List Request) :
    r.leftBy (r.turns requests) = r.after requests := by
  induction requests generalizing r with
  | nil => rfl
  | cons request rest ih => rw [turns_cons, leftBy_cons, ih, after_cons]

/-- What comes behind some turns of a run is a run from the registry in between. -/
theorem turns_eq_append {r : Registry} {requests : List Request} {past rest : List Turn}
    (h : r.turns requests = past ++ rest) :
    ∃ asked others, past = r.turns asked ∧ rest = (r.after asked).turns others := by
  induction past generalizing r requests with
  | nil => exact ⟨[], requests, rfl, h.symm⟩
  | cons first past ih =>
      cases requests with
      | nil => cases h
      | cons request requests =>
          rw [turns_cons, List.cons_append, List.cons.injEq] at h
          obtain ⟨asked, others, hpast, hrest⟩ := ih h.2
          refine ⟨request :: asked, others, ?_, hrest⟩
          rw [turns_cons, ← hpast, h.1]

/-- So does what comes behind a single turn in the middle. -/
theorem turns_eq_append_cons {r : Registry} {requests : List Request} {past rest : List Turn}
    {now : Turn} (h : r.turns requests = past ++ now :: rest) :
    ∃ asked request others, past = r.turns asked ∧ now = (r.after asked).turn request ∧
      rest = now.left.turns others := by
  obtain ⟨asked, others, hpast, hrest⟩ := turns_eq_append h
  cases others with
  | nil => cases hrest
  | cons request others =>
      rw [turns_cons, List.cons.injEq] at hrest
      exact ⟨asked, request, others, hpast, hrest.1, hrest.1 ▸ hrest.2⟩

end Registry

/-! ## What a turn does -/

/-- A mapping with one entry whose value has a shape; no other object comes to dispatch. -/
def Value.isDispatched : Value → Bool
  | .mapping ⟨[(_, v)]⟩ => v.shape?.isSome
  | _ => false

namespace Turn

/-- The turn drops the kept table: a registration that succeeded, or a request to drop it. -/
def drops (t : Turn) : Bool :=
  match t.request, t.reply with
  | .register _, .registered (.ok ()) => true
  | .invalidate, _ => true
  | _, _ => false

/-- The turn looks at the table. -/
def needsTable (t : Turn) : Bool :=
  match t.request with
  | .table | .rebuild | .listHandlers | .lookup _ _ => true
  | .convert _ object => object.isDispatched
  | .register _ | .invalidate => false

/-- The turn asks for a new build. -/
def rebuilds (t : Turn) : Bool :=
  match t.request with
  | .rebuild => true
  | _ => false

/-- A table that was kept before the turn is not kept behind it. -/
def renews (t : Turn) : Bool := t.drops || t.rebuilds

/-- All that a turn can do to a registry. -/
inductive Change (r : Registry) (t : Turn) : Prop where
  | dropped : t.drops = true → t.needsTable = false → t.left.kept = none →
      t.left.builds = r.builds → Change r t
  | looked : t.renews = false → t.needsTable = true → t.left = r.table.2 → Change r t
  | rebuilt : t.drops = false → t.rebuilds = true → t.needsTable = true → t.left = r.rebuild.2 →
      Change r t
  | nothing : t.renews = false → t.needsTable = false → t.left = r → Change r t

theorem drops_of_not_renews {t : Turn} (h : t.renews = false) : t.drops = false :=
  (Bool.or_eq_false_iff.mp h).1

end Turn

namespace Registry

/-- An object that comes to dispatch builds the table, any other leaves everything as it is. -/
theorem convert_snd_eq (r : Registry) (depth : Nat) (object : Value) :
    (r.convert depth object).2 = if object.isDispatched then r.table.2 else r := by
  cases object with
  | mapping m =>
      obtain ⟨entries⟩ := m
      cases entries with
      | nil => rfl
      | cons entry rest =>
          cases rest with
          | nil =>
              obtain ⟨name, v⟩ := entry
              cases hshape : v.shape? with
              | none => simp [convert, Value.asInstruction, Value.isDispatched,
                  Value.dispatchShape, hshape]
              | some shape => simp [convert, Value.asInstruction, Value.isDispatched,
                  Value.dispatchShape, hshape]
          | cons second rest => rfl
  | _ => rfl

theorem change_turn (r : Registry) (request : Request) : (r.turn request).Change r := by
  cases request with
  | register h =>
      rcases r.register_cases h with ⟨-, -, heq⟩ | ⟨e, -, heq⟩ | ⟨-, -, heq⟩
      · have hstep : r.step (.register h) =
            (.registered (.ok ()), { r with handlers := r.handlers ++ [h], kept := none }) := by
          simp [step, heq]
        refine .dropped ?_ rfl ?_ ?_
        · simp [turn, hstep, Turn.drops]
        · simp [turn, hstep]
        · simp [turn, hstep]
      · have hstep : r.step (.register h) = (.registered (.error e), r) := by simp [step, heq]
        exact .nothing (by simp [turn, hstep, Turn.renews, Turn.drops, Turn.rebuilds]) rfl
          (by simp [turn, hstep])
      · have hstep : r.step (.register h) =
            (.registered (.error (.definition h.instruction (.duplicate h.key.text))), r) := by
          simp [step, heq]
        exact .nothing (by simp [turn, hstep, Turn.renews, Turn.drops, Turn.rebuilds]) rfl
          (by simp [turn, hstep])
  | lookup name shape => exact .looked rfl rfl rfl
  | invalidate => exact .dropped rfl rfl rfl rfl
  | table => exact .looked rfl rfl rfl
  | rebuild => exact .rebuilt rfl rfl rfl rfl
  | listHandlers => exact .looked rfl rfl rfl
  | convert depth object =>
      have hleft : (r.turn (.convert depth object)).left = (r.convert depth object).2 := rfl
      rw [convert_snd_eq] at hleft
      cases hobject : object.isDispatched with
      | true => exact .looked rfl hobject (by rw [hleft, hobject, if_pos rfl])
      | false => exact .nothing rfl hobject (by rw [hleft, hobject, if_neg (by decide)])

/-! ## When a table is kept -/

theorem kept_table_snd (r : Registry) : r.table.2.kept = some r.table.1 := by
  simp only [table]
  cases hkept : r.kept with
  | some t => exact hkept
  | none => rfl

end Registry

/-- Some turn has needed the table, and no turn behind it has dropped it. -/
def NeededLast (turns : List Turn) : Prop :=
  ∃ before need since, turns = before ++ need :: since ∧ need.needsTable = true ∧
    ∀ t ∈ since, t.drops = false

theorem not_neededLast_nil : ¬ NeededLast [] := by
  rintro ⟨before, need, since, heq, -⟩
  cases before <;> cases heq

theorem neededLast_cons_iff {first : Turn} {rest : List Turn} :
    NeededLast (first :: rest) ↔
      NeededLast rest ∨ (first.needsTable = true ∧ ∀ t ∈ rest, t.drops = false) := by
  constructor
  · rintro ⟨before, need, since, heq, hneed, hsince⟩
    cases before with
    | nil =>
        rw [List.nil_append, List.cons.injEq] at heq
        obtain ⟨rfl, rfl⟩ := heq
        exact .inr ⟨hneed, hsince⟩
    | cons _ before =>
        rw [List.cons_append, List.cons.injEq] at heq
        exact .inl ⟨before, need, since, heq.2, hneed, hsince⟩
  · rintro (⟨before, need, since, rfl, hneed, hsince⟩ | ⟨hneed, hsince⟩)
    · exact ⟨first :: before, need, since, rfl, hneed, hsince⟩
    · exact ⟨[], first, rest, rfl, hneed, hsince⟩

namespace Registry

/-- A table is kept behind a turn if the turn has needed it, or has not dropped it. -/
theorem isBuilt_turn_iff (r : Registry) (request : Request) :
    (r.turn request).left.isBuilt = true ↔
      (r.turn request).needsTable = true ∨
        (r.isBuilt = true ∧ (r.turn request).drops = false) := by
  cases r.change_turn request with
  | dropped hdrops hneeds hkept _ => simp [isBuilt, hdrops, hneeds, hkept]
  | looked _ hneeds hleft => simp [isBuilt, hneeds, hleft, kept_table_snd]
  | rebuilt _ _ hneeds hleft => simp [isBuilt, hneeds, hleft, rebuild]
  | nothing hrenews hneeds hleft => simp [hneeds, hleft, Turn.drops_of_not_renews hrenews]

/-- A table is kept behind a run if it was needed since it was last dropped, or was kept all the
time. -/
theorem isBuilt_after_iff (r : Registry) (requests : List Request) :
    (r.after requests).isBuilt = true ↔
      NeededLast (r.turns requests) ∨
        (r.isBuilt = true ∧ ∀ t ∈ r.turns requests, t.drops = false) := by
  induction requests generalizing r with
  | nil => simp [after, turns, not_neededLast_nil]
  | cons request rest ih =>
      rw [after_cons, ih, isBuilt_turn_iff, turns_cons, neededLast_cons_iff, List.forall_mem_cons,
        or_and_right, and_assoc, or_assoc]

/-! ## The numbers of the builds -/

/-- The kept table is one of the builds that were counted. -/
def Numbered (r : Registry) : Prop := ∀ t, r.kept = some t → t.build < r.builds

/-- The kept table, and every table that is built from now on, has this number or a later one. -/
structure BuildsFrom (number : Nat) (r : Registry) : Prop where
  next : number ≤ r.builds
  kept : ∀ t, r.kept = some t → number ≤ t.build

variable {r : Registry} {number : Nat}

theorem numbered_of_unbuilt (h : r.kept = none) : r.Numbered := by
  intro t ht
  rw [h] at ht
  cases ht

theorem Numbered.rebuild (r : Registry) : r.rebuild.2.Numbered := by
  intro t ht
  cases ht
  exact Nat.lt_succ_self r.builds

theorem Numbered.table (h : r.Numbered) : r.table.2.Numbered := by
  simp only [Registry.table]
  cases hkept : r.kept with
  | some t => exact h
  | none => exact .rebuild r

theorem Numbered.turn (h : r.Numbered) (request : Request) : (r.turn request).left.Numbered := by
  cases r.change_turn request with
  | dropped _ _ hkept _ => exact numbered_of_unbuilt hkept
  | looked _ _ hleft => exact hleft ▸ h.table
  | rebuilt _ _ _ hleft => exact hleft ▸ .rebuild r
  | nothing _ _ hleft => rw [hleft]; exact h

theorem Numbered.after (h : r.Numbered) (requests : List Request) :
    (r.after requests).Numbered := by
  induction requests generalizing r with
  | nil => exact h
  | cons request rest ih =>
      rw [after_cons]
      exact ih (h.turn request)

theorem BuildsFrom.rebuild (h : number ≤ r.builds) : BuildsFrom number r.rebuild.2 where
  next := Nat.le_succ_of_le h
  kept := by
    intro t ht
    cases ht
    exact h

theorem BuildsFrom.table (h : BuildsFrom number r) : BuildsFrom number r.table.2 := by
  simp only [Registry.table]
  cases hkept : r.kept with
  | some t => exact h
  | none => exact .rebuild h.next

theorem BuildsFrom.turn (h : BuildsFrom number r) (request : Request) :
    BuildsFrom number (r.turn request).left := by
  cases r.change_turn request with
  | dropped _ _ hkept hbuilds =>
      refine ⟨hbuilds ▸ h.next, fun t ht => ?_⟩
      rw [hkept] at ht
      cases ht
  | looked _ _ hleft => exact hleft ▸ h.table
  | rebuilt _ _ _ hleft => exact hleft ▸ .rebuild h.next
  | nothing _ _ hleft => rw [hleft]; exact h

theorem BuildsFrom.after (h : BuildsFrom number r) (requests : List Request) :
    BuildsFrom number (r.after requests) := by
  induction requests generalizing r with
  | nil => exact h
  | cons request rest ih =>
      rw [after_cons]
      exact ih (h.turn request)

/-- A table that is shown is the one that is kept from then on. -/
theorem kept_of_reply {request : Request} {t : HandlerTable}
    (h : (r.turn request).reply = .table t) : (r.turn request).left.kept = some t := by
  cases request with
  | table =>
      cases h
      exact r.kept_table_snd
  | rebuild =>
      cases h
      rfl
  | register g =>
      simp only [turn, step] at h
      split at h <;> cases h
  | _ => cases h

theorem builds_le_turn (r : Registry) (request : Request) :
    r.builds ≤ (r.turn request).left.builds := by
  cases r.change_turn request with
  | dropped _ _ _ hbuilds => exact Nat.le_of_eq hbuilds.symm
  | looked _ _ hleft =>
      rw [hleft, table]
      cases r.kept with
      | some t => exact Nat.le_refl _
      | none => exact Nat.le_succ _
  | rebuilt _ _ _ hleft => rw [hleft]; exact Nat.le_succ _
  | nothing _ _ hleft => exact Nat.le_of_eq (by rw [hleft])

theorem builds_le_after (r : Registry) (requests : List Request) :
    r.builds ≤ (r.after requests).builds := by
  induction requests generalizing r with
  | nil => exact Nat.le_refl _
  | cons request rest ih =>
      rw [after_cons]
      exact Nat.le_trans (r.builds_le_turn request) (ih _)

/-- Every table that was shown or kept in a run has a lower number than the next build. -/
theorem build_lt_of_mem_turns (h : r.Numbered) {requests : List Request} {earlier : Turn}
    (hmem : earlier ∈ r.turns requests) {t : HandlerTable}
    (ht : earlier.reply = .table t ∨ earlier.left.kept = some t) :
    t.build < (r.after requests).builds := by
  induction requests generalizing r with
  | nil => cases hmem
  | cons request rest ih =>
      rw [after_cons]
      rw [turns_cons, List.mem_cons] at hmem
      rcases hmem with rfl | hmem
      · have hkept : (r.turn request).left.kept = some t := ht.elim kept_of_reply id
        exact Nat.lt_of_lt_of_le (h.turn request t hkept) (builds_le_after _ rest)
      · exact ih (h.turn request) hmem

/-! ## One build or two -/

/-- A turn that does not renew the table keeps it. -/
theorem kept_turn {t : HandlerTable} (hkept : r.kept = some t) {request : Request}
    (hquiet : (r.turn request).renews = false) : (r.turn request).left.kept = some t := by
  cases r.change_turn request with
  | dropped hdrops _ _ _ =>
      rw [Turn.drops_of_not_renews hquiet] at hdrops
      cases hdrops
  | looked _ _ hleft => rw [hleft, table, hkept]; exact hkept
  | rebuilt _ hrebuilds _ _ => rw [Turn.renews, hrebuilds, Bool.or_true] at hquiet; cases hquiet
  | nothing _ _ hleft => rw [hleft, hkept]

theorem kept_after {t : HandlerTable} (hkept : r.kept = some t) {requests : List Request}
    (hquiet : ∀ turn ∈ r.turns requests, turn.renews = false) :
    (r.after requests).kept = some t := by
  induction requests generalizing r with
  | nil => exact hkept
  | cons request rest ih =>
      rw [turns_cons, List.forall_mem_cons] at hquiet
      rw [after_cons]
      exact ih (kept_turn hkept hquiet.1) hquiet.2

/-- A turn that renews the table leaves room for later builds only. -/
theorem buildsFrom_turn (h : r.Numbered) {t : HandlerTable} (hkept : r.kept = some t)
    {request : Request} (hrenews : (r.turn request).renews = true) :
    BuildsFrom (t.build + 1) (r.turn request).left := by
  have hlt := h t hkept
  cases r.change_turn request with
  | dropped _ _ hnone hbuilds =>
      refine ⟨hbuilds ▸ hlt, fun t' ht' => ?_⟩
      rw [hnone] at ht'
      cases ht'
  | looked hquiet _ _ => rw [hquiet] at hrenews; cases hrenews
  | rebuilt _ _ _ hleft => exact hleft ▸ .rebuild hlt
  | nothing hquiet _ _ => rw [hquiet] at hrenews; cases hrenews

theorem buildsFrom_after (h : r.Numbered) {t : HandlerTable} (hkept : r.kept = some t)
    {requests : List Request} (hrenewed : ∃ turn ∈ r.turns requests, turn.renews = true) :
    BuildsFrom (t.build + 1) (r.after requests) := by
  -- up to the first turn that renews it the table is kept, and from then on builds are later ones
  induction requests generalizing r with
  | nil =>
      obtain ⟨turn, hmem, -⟩ := hrenewed
      cases hmem
  | cons request rest ih =>
      rw [after_cons]
      cases hrenews : (r.turn request).renews with
      | true => exact (buildsFrom_turn h hkept hrenews).after rest
      | false =>
          obtain ⟨turn, hmem, hturn⟩ := hrenewed
          rw [turns_cons, List.mem_cons] at hmem
          rcases hmem with rfl | hmem
          · rw [hrenews] at hturn
            cases hturn
          · exact ih (h.turn request) (kept_turn hkept hrenews) ⟨turn, hmem, hturn⟩

theorem table_fst_of_kept {t : HandlerTable} (hkept : r.kept = some t) : r.table.1 = t := by
  rw [table, hkept]

theorem BuildsFrom.le_table (h : BuildsFrom number r) : number ≤ r.table.1.build :=
  h.table.kept _ r.kept_table_snd

/-- The table shown now is the one that was kept before some turns if and only if none of these
renewed it. -/
theorem table_after_eq_iff (h : r.Numbered) {t : HandlerTable} (hkept : r.kept = some t)
    (requests : List Request) :
    ((r.after requests).table.1.build = t.build ↔
        ∀ turn ∈ r.turns requests, turn.renews = false) ∧
      ((r.after requests).table.1.build = t.build → (r.after requests).table.1 = t) := by
  by_cases hquiet : ∀ turn ∈ r.turns requests, turn.renews = false
  · have heq := table_fst_of_kept (kept_after hkept hquiet)
    exact ⟨⟨fun _ => hquiet, fun _ => by rw [heq]⟩, fun _ => heq⟩
  · have hrenewed : ∃ turn ∈ r.turns requests, turn.renews = true := by simpa using hquiet
    have hle := (buildsFrom_after h hkept hrenewed).le_table
    have hne : (r.after requests).table.1.build ≠ t.build := by omega
    exact ⟨⟨fun heq => absurd heq hne, fun hall => absurd hall hquiet⟩, fun heq => absurd heq hne⟩

/-! ## Turns in the middle of a run -/

section Middle

variable {requests : List Request} {past between rest : List Turn} {first now : Turn}

theorem left_isBuilt_iff (created : r.isBuilt = false)
    (hturns : r.turns requests = past ++ now :: rest) :
    now.left.isBuilt = true ↔ NeededLast (past ++ [now]) := by
  have hsplit : r.turns requests = (past ++ [now]) ++ rest := by
    rw [hturns, List.append_assoc, List.singleton_append]
  obtain ⟨asked, others, hpast, -⟩ := turns_eq_append hsplit
  have hleft : now.left = r.after asked := by
    rw [← leftBy_turns, ← hpast]
    simp [leftBy]
  rw [hleft, isBuilt_after_iff, created, hpast]
  simp

/-- Two requests for the table, and what comes between them. -/
theorem shown_tables_eq_iff (h : r.Numbered)
    (hturns : r.turns requests = past ++ first :: (between ++ now :: rest))
    (hfirst : first.request = .table) (hnow : now.request = .table) :
    ∃ t t', first.reply = .table t ∧ now.reply = .table t' ∧
      (t'.build = t.build ↔ ∀ turn ∈ between, turn.renews = false) ∧
      (t'.build = t.build → t' = t) := by
  obtain ⟨asked, request, others, -, rfl, hrest⟩ := turns_eq_append_cons hturns
  obtain ⟨asked', request', _, rfl, rfl, -⟩ := turns_eq_append_cons hrest.symm
  obtain rfl : request = .table := hfirst
  obtain rfl : request' = .table := hnow
  have hkept : (r.after asked).table.2.kept = some (r.after asked).table.1 := kept_table_snd _
  exact ⟨(r.after asked).table.1, _, rfl, rfl,
    table_after_eq_iff (h.after asked).table hkept asked'⟩

theorem rebuild_fresh (h : r.Numbered) (hturns : r.turns requests = past ++ now :: rest)
    (hnow : now.request = .rebuild) :
    ∃ t, now.reply = .table t ∧ ∀ earlier ∈ past, ∀ t',
      earlier.reply = .table t' ∨ earlier.left.kept = some t' → t'.build ≠ t.build := by
  obtain ⟨asked, request, others, rfl, rfl, -⟩ := turns_eq_append_cons hturns
  obtain rfl : request = .rebuild := hnow
  exact ⟨(r.after asked).rebuild.1, rfl, fun earlier hmem t' ht' =>
    Nat.ne_of_lt (build_lt_of_mem_turns h hmem ht')⟩

theorem left_of_refused {h : Handler} {e : InstructionError}
    (hturns : r.turns requests = past ++ now :: rest) (hnow : now.request = .register h)
    (hreply : now.reply = .registered (.error e)) :
    now.left = r.leftBy past ∧
      (h.checkDefinition = .error e ∨ ∃ g ∈ (r.leftBy past).handlers, g.key = h.key) := by
  obtain ⟨asked, request, others, rfl, rfl, -⟩ := turns_eq_append_cons hturns
  obtain rfl : request = .register h := hnow
  rw [leftBy_turns]
  simp only [turn, step] at hreply ⊢
  rcases (r.after asked).register_cases h with ⟨-, -, heq⟩ | ⟨e', hill, heq⟩ | ⟨-, hkey, heq⟩
  · rw [heq] at hreply
    cases hreply
  · rw [heq] at hreply ⊢
    cases hreply
    exact ⟨rfl, .inl hill⟩
  · rw [heq] at hreply ⊢
    exact ⟨rfl, .inr hkey⟩

end Middle

end Registry

/-! ## The life of the table -/

/-- When a registry keeps a table in a run, and which tables are one build. -/
structure TableLife (start : Registry) (turns : List Turn) : Prop where
  created : start.isBuilt = false
  /-- Behind a turn a table is kept if and only if some turn has needed it since a registration
  last succeeded or the table was last dropped on request. -/
  built : ∀ {past now rest}, turns = past ++ now :: rest →
    (now.left.isBuilt = true ↔ NeededLast (past ++ [now]))
  /-- Two requests for the table show one build if and only if nothing in between renewed it. -/
  same : ∀ {past first between second rest},
    turns = past ++ first :: (between ++ second :: rest) →
      first.request = .table → second.request = .table →
        ∃ t t', first.reply = .table t ∧ second.reply = .table t' ∧
          (t'.build = t.build ↔ ∀ turn ∈ between, turn.renews = false) ∧
          (t'.build = t.build → t' = t)
  /-- A rebuild shows a build that was never shown or kept before. -/
  fresh : ∀ {past now rest}, turns = past ++ now :: rest → now.request = .rebuild →
    ∃ t, now.reply = .table t ∧ ∀ earlier ∈ past, ∀ t',
      earlier.reply = .table t' ∨ earlier.left.kept = some t' → t'.build ≠ t.build
  /-- A registration that fails, for its definition or its key, changes nothing at all. -/
  refused : ∀ {past now rest h e}, turns = past ++ now :: rest → now.request = .register h →
    now.reply = .registered (.error e) →
      now.left = start.leftBy past ∧
        (h.checkDefinition = .error e ∨ ∃ g ∈ (start.leftBy past).handlers, g.key = h.key)

/-- So it goes in every session. -/
theorem session_tableLife (start : Start) (requests : List Request) :
    TableLife start.registry (start.registry.turns requests) := by
  have unbuilt : start.registry.kept = none := by cases start <;> rfl
  have created : start.registry.isBuilt = false := by rw [Registry.isBuilt, unbuilt]; rfl
  have numbered : start.registry.Numbered := Registry.numbered_of_unbuilt unbuilt
  exact ⟨created, Registry.left_isBuilt_iff created, Registry.shown_tables_eq_iff numbered,
    Registry.rebuild_fresh numbered, Registry.left_of_refused⟩

end ImageRecipe
