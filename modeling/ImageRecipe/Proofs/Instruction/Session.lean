import ImageRecipe.Instruction.Session
import ImageRecipe.Proofs.Instruction.Dispatch
import ImageRecipe.Proofs.Instruction.Table

/-!
# A registry refines a finite map

Seen from outside, a registry is the handlers whose registration succeeded and nothing more: the
table that it keeps, drops and builds again never shows in an answer, but for the number of its
build.

* `Registry.registered` : the handlers that a run has registered, read off its answers
* `Answers` : what a map of handlers answers to a request
* `Registry.Coherent` : the invariant, kept by `step` and so by every run
* `RefinesMap`, `session_refines_map` : the refinement, from the empty registry or the built-ins
-/

namespace ImageRecipe

/-! ## What a run has registered -/

/-- The handler that a request has added, if its answer says so. -/
def Request.added : Request → Reply → Option Handler
  | .register h, .registered (.ok ()) => some h
  | _, _ => none

/-- The handlers whose registration succeeds in a run, in that order. -/
def Registry.added (r : Registry) (requests : List Request) : List Handler :=
  (requests.zip (r.runSession requests)).filterMap fun (request, reply, _) => request.added reply

/-- The handlers at the start and those that the run adds. -/
def Registry.registered (r : Registry) (requests : List Request) : List Handler :=
  r.handlers ++ r.added requests

/-- The registries with which sessions start. -/
inductive Start where
  | empty
  | builtin

/-- The registry itself. -/
def Start.registry : Start → Registry
  | .empty => .empty
  | .builtin => .builtin

/-! ## The answers of a map -/

/-- The map from keys to handlers with these handlers gives this answer to this request.  A listing
shows the whole map, and the number of a table's build is left open. -/
inductive Answers (hs : List Handler) : Request → Reply → Prop where
  | registered {h : Handler} : h.checkDefinition = .ok () → (∀ g ∈ hs, g.key ≠ h.key) →
      Answers hs (.register h) (.registered (.ok ()))
  | ill {h : Handler} {e : InstructionError} : h.checkDefinition = .error e →
      Answers hs (.register h) (.registered (.error e))
  | duplicate {g h : Handler} : h.checkDefinition = .ok () → g ∈ hs → g.key = h.key →
      Answers hs (.register h)
        (.registered (.error (.definition h.instruction (.duplicate h.key.text))))
  | found {name : String} {shape : Shape} {h : Handler} : h ∈ hs →
      h.instruction = Text.asciiUpper name → h.shape = shape → (∀ g ∈ hs, g.key = h.key → g = h) →
      Answers hs (.lookup name shape) (.found (.ok h))
  | notFound {name : String} {shape : Shape} : (∀ h ∈ hs, h.key ≠ .of name shape) →
      Answers hs (.lookup name shape) (.found (.error (.noHandler (Text.asciiUpper name) shape)))
  | invalidated : Answers hs .invalidate .invalidated
  | table {t : HandlerTable} : Lists hs t.handlers → Answers hs .table (.table t)
  | rebuilt {t : HandlerTable} : Lists hs t.handlers → Answers hs .rebuild (.table t)
  | listed {shown : List Handler} : Lists hs shown → Answers hs .listHandlers (.handlers shown)
  | line {t : HandlerTable} {depth : Nat} {object : Value} : Lists hs t.handlers →
      Answers hs (.convert depth object) (.line (t.convert? depth object))

/-- The answer without the number of a table's build. -/
def Reply.forgetBuild : Reply → Reply
  | .table t => .table { t with build := 0 }
  | reply => reply

namespace Answers

variable {hs hs' : List Handler}

/-- It does not matter in which order the map is given. -/
theorem perm {request : Request} {reply : Reply} (same : hs.Perm hs')
    (h : Answers hs request reply) : Answers hs' request reply := by
  have listed : ∀ {shown : List Handler}, Lists hs shown → Lists hs' shown :=
    fun h => ⟨h.perm.trans same, h.ascending⟩
  cases h with
  | registered sound new => exact .registered sound fun g hg => new g (same.mem_iff.mpr hg)
  | ill he => exact .ill he
  | duplicate sound hg hkey => exact .duplicate sound (same.mem_iff.mp hg) hkey
  | found hh hname hshape unique =>
      exact .found (same.mem_iff.mp hh) hname hshape fun g hg => unique g (same.mem_iff.mpr hg)
  | notFound absent => exact .notFound fun g hg => absent g (same.mem_iff.mpr hg)
  | invalidated => exact .invalidated
  | table h => exact .table (listed h)
  | rebuilt h => exact .rebuilt (listed h)
  | listed h => exact .listed (listed h)
  | line h => exact .line (listed h)

/-- A map has one answer, up to the number of a table's build. -/
theorem unique {request : Request} {reply reply' : Reply} (h : Answers hs request reply)
    (h' : Answers hs request reply') : reply.forgetBuild = reply'.forgetBuild := by
  -- two kinds of answers to one request exclude each other: a definition is sound or not, and a
  -- key is taken or not
  cases h with
  | registered sound new =>
      cases h' with
      | registered => rfl
      | ill he => rw [sound] at he; cases he
      | duplicate _ hg hkey => exact absurd hkey (new _ hg)
  | ill he =>
      cases h' with
      | registered sound => rw [sound] at he; cases he
      | ill he' => rw [he] at he'; cases he'; rfl
      | duplicate sound => rw [sound] at he; cases he
  | duplicate sound hg hkey =>
      cases h' with
      | registered _ new => exact absurd hkey (new _ hg)
      | ill he => rw [sound] at he; cases he
      | duplicate => rfl
  | @found name shape h hh hname hshape unique =>
      cases h' with
      | @found _ _ g hg hname' hshape' _ =>
          have hkey : g.key = h.key := by
            simp only [Handler.key, hname, hname', hshape, hshape']
          rw [unique g hg hkey]
      | notFound absent =>
          have hkey : h.key = .of name shape := by
            simp only [Handler.key, HandlerKey.of, hname, hshape]
          exact absurd hkey (absent h hh)
  | @notFound name shape absent =>
      cases h' with
      | @found _ _ g hg hname hshape _ =>
          have hkey : g.key = .of name shape := by
            simp only [Handler.key, HandlerKey.of, hname, hshape]
          exact absurd hkey (absent g hg)
      | notFound => rfl
  | invalidated => cases h'; rfl
  | table h =>
      cases h' with
      | table h' => simp only [Reply.forgetBuild, h.unique h']
  | rebuilt h =>
      cases h' with
      | rebuilt h' => simp only [Reply.forgetBuild, h.unique h']
  | listed h =>
      cases h' with
      | listed h' => rw [h.unique h']
  | @line t depth object h =>
      cases h' with
      | @line t' _ _ h' =>
          have same : ∀ name shape, t.lookup name shape = t'.lookup name shape := by
            intro name shape
            simp only [HandlerTable.lookup, HandlerTable.find?, h.unique h']
          rw [HandlerTable.convert?_congr same]

end Answers

/-! ## The invariant -/

namespace Registry

/-- Keys are distinct, and a table that is kept holds the handlers as they are now. -/
structure Coherent (r : Registry) : Prop where
  distinct : (r.handlers.map Handler.key).Nodup
  kept : ∀ t, r.kept = some t → t.handlers = HandlerTable.sort r.handlers

theorem hasKey_iff {r : Registry} {key : HandlerKey} :
    r.hasKey key = true ↔ ∃ g ∈ r.handlers, g.key = key := by
  simp [hasKey]

/-- All that registering can do. -/
theorem register_cases (r : Registry) (h : Handler) :
    (h.checkDefinition = .ok () ∧ (∀ g ∈ r.handlers, g.key ≠ h.key) ∧
      r.register h = .ok { r with handlers := r.handlers ++ [h], kept := none }) ∨
    (∃ e, h.checkDefinition = .error e ∧ r.register h = .error e) ∨
    (h.checkDefinition = .ok () ∧ (∃ g ∈ r.handlers, g.key = h.key) ∧
      r.register h = .error (.definition h.instruction (.duplicate h.key.text))) := by
  cases hcheck : h.checkDefinition with
  | error e => exact .inr (.inl ⟨e, rfl, by simp [register, hcheck]⟩)
  | ok sound =>
      by_cases hkey : r.hasKey h.key = true
      · exact .inr (.inr ⟨rfl, hasKey_iff.mp hkey, by simp [register, hcheck, hkey]⟩)
      · refine .inl ⟨rfl, fun g hg he => hkey (hasKey_iff.mpr ⟨g, hg, he⟩), ?_⟩
        simp [register, hcheck, hkey, invalidate]

theorem registered_of_register {r r' : Registry} {h : Handler} (hr : r.register h = .ok r') :
    (∀ g ∈ r.handlers, g.key ≠ h.key) ∧
      r' = { r with handlers := r.handlers ++ [h], kept := none } := by
  rcases r.register_cases h with ⟨-, new, heq⟩ | ⟨e, -, heq⟩ | ⟨-, -, heq⟩
  · rw [heq] at hr
    exact ⟨new, (Except.ok.inj hr).symm⟩
  · rw [heq] at hr; cases hr
  · rw [heq] at hr; cases hr

/-- A converted object has its line from the table, also where the table is not needed. -/
theorem convert_fst (r : Registry) (depth : Nat) (object : Value) :
    (r.convert depth object).1 = r.table.1.convert? depth object := by
  simp only [convert, HandlerTable.convert?]
  cases object.asInstruction with
  | error e => rfl
  | ok pair =>
      obtain ⟨name, v⟩ := pair
      cases hshape : v.dispatchShape name with
      | error e =>
          cases depth with
          | zero => simp [HandlerTable.line?, HandlerTable.lineBy, hshape]
          | succ depth => simp [HandlerTable.line?, HandlerTable.lineBy, hshape]
      | ok shape => simp [hshape]

/-- Converting an object builds the table or leaves everything as it is. -/
theorem convert_snd (r : Registry) (depth : Nat) (object : Value) :
    (r.convert depth object).2 = r.table.2 ∨ (r.convert depth object).2 = r := by
  simp only [convert]
  cases object.asInstruction with
  | error e => exact .inr rfl
  | ok pair =>
      obtain ⟨name, v⟩ := pair
      cases hshape : v.dispatchShape name with
      | error e => exact .inr (by simp [hshape])
      | ok shape => exact .inl (by simp [hshape])

theorem rebuild_snd_handlers (r : Registry) : r.rebuild.2.handlers = r.handlers := rfl

theorem table_snd_handlers (r : Registry) : r.table.2.handlers = r.handlers := by
  simp only [table]
  cases r.kept with
  | some t => rfl
  | none => exact r.rebuild_snd_handlers

/-- The handlers after a request are those before it and the one that it adds. -/
theorem step_handlers (r : Registry) (request : Request) :
    (r.step request).2.handlers = r.handlers ++ (request.added (r.step request).1).toList := by
  cases request with
  | register h =>
      rcases r.register_cases h with ⟨-, -, heq⟩ | ⟨e, -, heq⟩ | ⟨-, -, heq⟩
      · simp [step, heq, Request.added]
      · simp [step, heq, Request.added]
      · simp [step, heq, Request.added]
  | lookup name shape => simp [step, lookup, table_snd_handlers, Request.added]
  | invalidate => simp [step, invalidate, Request.added]
  | table => simp [step, table_snd_handlers, Request.added]
  | rebuild => simp [step, rebuild_snd_handlers, Request.added]
  | listHandlers => simp [step, inOrder, table_snd_handlers, Request.added]
  | convert depth object =>
      rcases r.convert_snd depth object with heq | heq
      · simp [step, heq, table_snd_handlers, Request.added]
      · simp [step, heq, Request.added]

theorem registered_cons (r : Registry) (request : Request) (rest : List Request) :
    r.registered (request :: rest) = (r.step request).2.registered rest := by
  simp only [registered, added, runSession, List.zip_cons_cons, step_handlers]
  cases hadded : request.added (r.step request).1 with
  | none => simp [hadded]
  | some h => simp [hadded]

/-- After a run the handlers are the registered ones. -/
theorem after_handlers (r : Registry) (requests : List Request) :
    (r.after requests).handlers = r.registered requests := by
  induction requests generalizing r with
  | nil => simp [after, registered, added]
  | cons request rest ih =>
      rw [registered_cons, ← ih]
      rfl

namespace Coherent

variable {r : Registry}

theorem rebuild (h : r.Coherent) : r.rebuild.2.Coherent where
  distinct := h.distinct
  kept := by
    intro t ht
    cases ht
    rfl

theorem table (h : r.Coherent) : r.table.2.Coherent := by
  simp only [Registry.table]
  cases hkept : r.kept with
  | some t => exact h
  | none => exact h.rebuild

theorem invalidate (h : r.Coherent) : r.invalidate.Coherent where
  distinct := h.distinct
  kept := by
    intro t ht
    cases ht

theorem register {g : Handler} {r' : Registry} (h : r.Coherent) (hr : r.register g = .ok r') :
    r'.Coherent := by
  obtain ⟨new, rfl⟩ := registered_of_register hr
  constructor
  · rw [List.map_append, List.nodup_append]
    refine ⟨h.distinct, List.pairwise_singleton _ _, ?_⟩
    intro key hkey key' hkey' heq
    obtain ⟨f, hf, rfl⟩ := List.mem_map.mp hkey
    simp only [List.map_cons, List.map_nil, List.mem_singleton] at hkey'
    exact new f hf (heq.trans hkey')
  · intro t ht
    cases ht

/-- The table that is kept or built now holds the handlers of this moment. -/
theorem table_handlers (h : r.Coherent) :
    r.table.1.handlers = HandlerTable.sort r.handlers := by
  simp only [Registry.table]
  cases hkept : r.kept with
  | some t => exact h.kept t hkept
  | none => rfl

theorem lists_table (h : r.Coherent) : Lists r.handlers r.table.1.handlers :=
  h.table_handlers ▸ HandlerTable.lists_sort h.distinct

/-- What the table finds is what is registered. -/
theorem find?_table_iff (h : r.Coherent) {t : HandlerTable}
    (ht : t.handlers = HandlerTable.sort r.handlers) {key : HandlerKey} {g : Handler} :
    t.find? key = some g ↔ g ∈ r.handlers ∧ g.key = key := by
  obtain ⟨hs, build⟩ := t
  cases ht
  exact HandlerTable.find?_sort_eq_some_iff h.distinct

/-- A registered handler is found under its key. -/
theorem lookup_table {g : Handler} {name : String} {shape : Shape} (h : r.Coherent)
    (hg : g ∈ r.handlers) (hkey : g.key = .of name shape) :
    r.table.1.lookup name shape = .ok g := by
  rw [HandlerTable.lookup, (h.find?_table_iff h.table_handlers).mpr ⟨hg, hkey⟩]

/-- One request keeps the invariant. -/
theorem step (h : r.Coherent) (request : Request) : (r.step request).2.Coherent := by
  cases request with
  | register g =>
      simp only [Registry.step]
      cases hr : r.register g with
      | ok r' => exact h.register hr
      | error e => exact h
  | lookup name shape => exact h.table
  | invalidate => exact h.invalidate
  | table => exact h.table
  | rebuild => exact h.rebuild
  | listHandlers => exact h.table
  | convert depth object =>
      have hsnd : (r.step (.convert depth object)).2 = (r.convert depth object).2 := rfl
      rcases r.convert_snd depth object with heq | heq
      · rw [hsnd, heq]
        exact h.table
      · rw [hsnd, heq]
        exact h

/-- A run keeps the invariant. -/
theorem after (h : r.Coherent) (requests : List Request) : (r.after requests).Coherent := by
  -- the first request leaves a coherent registry, from which the others go on
  induction requests generalizing r with
  | nil => exact h
  | cons request rest ih => exact ih (h.step request)

/-- Two registered handlers with one key are one. -/
theorem eq_of_key {f g : Handler} (h : r.Coherent) (hf : f ∈ r.handlers) (hg : g ∈ r.handlers)
    (hkey : f.key = g.key) : f = g := by
  have hfindF := (HandlerTable.find?_eq_some_iff_of_distinct h.distinct).mpr ⟨hf, hkey⟩
  have hfindG := (HandlerTable.find?_eq_some_iff_of_distinct h.distinct).mpr ⟨hg, rfl⟩
  exact Option.some.inj (hfindF.symm.trans hfindG)

/-- A coherent registry answers as the map of its handlers does. -/
theorem answers (h : r.Coherent) (request : Request) :
    Answers r.handlers request (r.step request).1 := by
  cases request with
  | register g =>
      rcases r.register_cases g with ⟨sound, new, heq⟩ | ⟨e, he, heq⟩ | ⟨sound, ⟨f, hf, hkey⟩, heq⟩
      · simpa [Registry.step, heq] using Answers.registered sound new
      · simpa [Registry.step, heq] using Answers.ill he
      · simpa [Registry.step, heq] using Answers.duplicate sound hf hkey
  | lookup name shape =>
      have hreply : (r.step (.lookup name shape)).1 = .found (r.table.1.lookup name shape) := rfl
      rw [hreply, HandlerTable.lookup]
      cases hfind : r.table.1.find? (.of name shape) with
      | some g =>
          obtain ⟨hg, hkey⟩ := (h.find?_table_iff h.table_handlers).mp hfind
          refine .found hg ?_ ?_ fun f hf hf' => h.eq_of_key hf hg hf'
          · exact congrArg HandlerKey.instruction hkey
          · exact congrArg HandlerKey.shape hkey
      | none =>
          refine .notFound fun g hg hkey => ?_
          have hfound := (h.find?_table_iff h.table_handlers).mpr ⟨hg, hkey⟩
          rw [hfind] at hfound
          cases hfound
  | invalidate => exact .invalidated
  | table => exact .table h.lists_table
  | rebuild => exact .rebuilt (HandlerTable.lists_sort h.distinct)
  | listHandlers => exact .listed h.lists_table
  | convert depth object =>
      have hreply : (r.step (.convert depth object)).1 = .line (r.convert depth object).1 := rfl
      rw [hreply, convert_fst]
      exact .line h.lists_table

end Coherent

end Registry

/-! ## Refinement -/

/-- Every session starts with a coherent registry. -/
theorem Start.coherent (start : Start) : start.registry.Coherent := by
  cases start with
  | empty => exact ⟨List.nodup_nil, fun _ ht => nomatch ht⟩
  | builtin => exact ⟨builtinHandlers_distinct, fun _ ht => nomatch ht⟩

/-- After a run, the registry is the finite map of the handlers registered so far. -/
structure RefinesMap (start : Registry) (requests : List Request) : Prop where
  /-- No two registered handlers have one key. -/
  distinct : ((start.registered requests).map Handler.key).Nodup
  handlers : (start.after requests).handlers = start.registered requests
  /-- A kept table is the map: it lists the registered handlers and finds each by its key. -/
  kept : ∀ t, (start.after requests).kept = some t →
    Lists (start.registered requests) t.handlers ∧
      ∀ key h, t.find? key = some h ↔ h ∈ start.registered requests ∧ h.key = key
  /-- The next request, whichever it is, is answered as the map answers it. -/
  answers : ∀ request,
    Answers (start.registered requests) request ((start.after requests).step request).1
  /-- Any other run that has registered the same gets the same answer. -/
  independent : ∀ (start' : Start) (requests' : List Request),
    (start.registered requests).Perm (start'.registry.registered requests') → ∀ request,
      ((start.after requests).step request).1.forgetBuild =
        ((start'.registry.after requests').step request).1.forgetBuild

/-- Registry and map agree after every run, whatever the order of its requests. -/
theorem session_refines_map (start : Start) (requests : List Request) :
    RefinesMap start.registry requests := by
  have coherent := start.coherent.after requests
  have handlers := start.registry.after_handlers requests
  refine ⟨?_, handlers, ?_, ?_, ?_⟩
  · rw [← handlers]
    exact coherent.distinct
  · intro t ht
    have hsorted := coherent.kept t ht
    rw [← handlers]
    exact ⟨hsorted ▸ HandlerTable.lists_sort coherent.distinct,
      fun key h => coherent.find?_table_iff hsorted⟩
  · intro request
    rw [← handlers]
    exact coherent.answers request
  · intro start' requests' same request
    -- both runs answer as one map does, and a map has one answer
    have coherent' := start'.coherent.after requests'
    rw [← handlers, ← start'.registry.after_handlers requests'] at same
    exact ((coherent.answers request).perm same).unique (coherent'.answers request)

end ImageRecipe
