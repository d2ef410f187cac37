import ImageRecipe.Proofs.Instruction.Build
import ImageRecipe.Proofs.Instruction.Registration

/-!
# The order of registrations

Handlers whose definitions make sense and whose keys are new and distinct can be registered in any
order, with anything else asked in between: each registration succeeds, and what the registry
answers afterwards does not tell in which order they came.

* `Request.handler?` : the handler that a request wants registered
* `Registry.SameAnswers`, `Registry.Coherent.sameAnswers` : registries that hold the same handlers
* `Registry.after_of_new` : a run that registers new handlers
* `registration_order_irrelevant` : two such runs
-/

namespace ImageRecipe

/-- The handler that a request wants registered. -/
def Request.handler? : Request → Option Handler
  | .register h => some h
  | _ => none

/-- A registration, if it is one, succeeds. -/
def Turn.Registers (t : Turn) : Prop :=
  ∀ h, t.request = .register h → t.reply = .registered (.ok ())

/-- Nothing else is a registration that could fail. -/
theorem Turn.registers_of_handler?_eq_none {t : Turn} (hnone : t.request.handler? = none) :
    t.Registers := by
  intro h hrequest
  rw [hrequest] at hnone
  cases hnone

namespace Registry

variable {r r' : Registry}

/-! ## Registries that hold the same handlers -/

/-- Nothing that can be asked tells the registries apart, but for the numbers of builds. -/
structure SameAnswers (r r' : Registry) : Prop where
  table : r.table.1.handlers = r'.table.1.handlers
  inOrder : r.inOrder.1 = r'.inOrder.1
  lookup : ∀ name shape, (r.lookup name shape).1 = (r'.lookup name shape).1
  convert : ∀ depth object, (r.convert depth object).1 = (r'.convert depth object).1
  /-- The same holds after whatever is asked next. -/
  sessions : ∀ later : List Request,
    (r.runSession later).map (fun answer => answer.1.forgetBuild) =
      (r'.runSession later).map fun answer => answer.1.forgetBuild

/-- The number of a build says nothing about a registration. -/
theorem added_forgetBuild (request : Request) (reply : Reply) :
    request.added reply.forgetBuild = request.added reply := by
  cases reply with
  | table t => cases request <;> rfl
  | _ => rfl

/-- One request to registries with the same handlers has the same answer, and leaves the same
handlers in both. -/
theorem Coherent.step_perm (coherent : r.Coherent) (coherent' : r'.Coherent)
    (same : r.handlers.Perm r'.handlers) (request : Request) :
    (r.step request).1.forgetBuild = (r'.step request).1.forgetBuild ∧
      (r.step request).2.handlers.Perm (r'.step request).2.handlers := by
  have hreply : (r.step request).1.forgetBuild = (r'.step request).1.forgetBuild :=
    ((coherent.answers request).perm same).unique (coherent'.answers request)
  refine ⟨hreply, ?_⟩
  have hadded := congrArg request.added hreply
  rw [added_forgetBuild, added_forgetBuild] at hadded
  rw [step_handlers, step_handlers, hadded]
  exact same.append_right _

theorem Coherent.runSession_perm (coherent : r.Coherent) (coherent' : r'.Coherent)
    (same : r.handlers.Perm r'.handlers) (later : List Request) :
    (r.runSession later).map (fun answer => answer.1.forgetBuild) =
      (r'.runSession later).map fun answer => answer.1.forgetBuild := by
  -- the first request leaves the same handlers in both registries, from which the others go on
  induction later generalizing r r' with
  | nil => rfl
  | cons request rest ih =>
      obtain ⟨hreply, hleft⟩ := coherent.step_perm coherent' same request
      have hrest := ih (coherent.step request) (coherent'.step request) hleft
      simp only [runSession, List.map_cons, hreply, hrest]

/-- Registries with the same handlers cannot be told apart, in whatever order they hold them. -/
theorem Coherent.sameAnswers (coherent : r.Coherent) (coherent' : r'.Coherent)
    (same : r.handlers.Perm r'.handlers) : r.SameAnswers r' := by
  have hlists : Lists r'.handlers r.table.1.handlers :=
    ⟨coherent.lists_table.perm.trans same, coherent.lists_table.ascending⟩
  have htable : r.table.1.handlers = r'.table.1.handlers := hlists.unique coherent'.lists_table
  have hlookup : ∀ name shape, r.table.1.lookup name shape = r'.table.1.lookup name shape := by
    intro name shape
    simp only [HandlerTable.lookup, HandlerTable.find?, htable]
  refine ⟨htable, htable, hlookup, ?_, coherent.runSession_perm coherent' same⟩
  intro depth object
  rw [convert_fst, convert_fst, HandlerTable.convert?_congr hlookup]

/-! ## Runs that register new handlers -/

/-- A request that wants a new handler registered, or none, adds what it wants. -/
theorem turn_of_new (request : Request)
    (sound : ∀ h ∈ request.handler?, h.checkDefinition = .ok ())
    (new : ∀ h ∈ request.handler?, ∀ g ∈ r.handlers, g.key ≠ h.key) :
    (r.turn request).Registers ∧
      (r.turn request).left.handlers = r.handlers ++ request.handler?.toList := by
  have hleft : (r.turn request).left.handlers = r.handlers ++
      (request.added (r.turn request).reply).toList := r.step_handlers request
  cases request with
  | register h =>
      rcases r.register_cases h with ⟨-, -, heq⟩ | ⟨e, he, -⟩ | ⟨-, ⟨g, hg, hkey⟩, -⟩
      · have hreply : (r.turn (.register h)).reply = .registered (.ok ()) := by
          simp only [turn, step, heq]
        rw [hreply] at hleft
        exact ⟨fun _ _ => hreply, hleft⟩
      · rw [sound h rfl] at he
        cases he
      · exact absurd hkey (new h rfl g hg)
  | _ => exact ⟨Turn.registers_of_handler?_eq_none rfl, hleft⟩

/-- A run that wants new handlers registered, whatever else it asks, adds them one after the
other. -/
theorem after_of_new (r : Registry) (requests : List Request)
    (sound : ∀ h ∈ requests.filterMap Request.handler?, h.checkDefinition = .ok ())
    (distinct : ((requests.filterMap Request.handler?).map Handler.key).Nodup)
    (new : ∀ h ∈ requests.filterMap Request.handler?, ∀ g ∈ r.handlers, g.key ≠ h.key) :
    (∀ t ∈ r.turns requests, t.Registers) ∧
      (r.after requests).handlers = r.handlers ++ requests.filterMap Request.handler? := by
  -- behind the first request its handler is registered, and has a key that no later one has
  induction requests generalizing r with
  | nil => exact ⟨List.forall_mem_nil _, (List.append_nil _).symm⟩
  | cons request rest ih =>
      have hwanted : (request :: rest).filterMap Request.handler? =
          request.handler?.toList ++ rest.filterMap Request.handler? := by
        cases hrequest : request.handler? with
        | none => rw [List.filterMap_cons_none hrequest]; rfl
        | some h => rw [List.filterMap_cons_some hrequest]; rfl
      rw [hwanted] at sound distinct new ⊢
      rw [List.map_append, List.nodup_append] at distinct
      obtain ⟨-, hrest, hapart⟩ := distinct
      have hfirst : ∀ h ∈ request.handler?, h ∈ request.handler?.toList :=
        fun h hh => Option.mem_toList.mpr hh
      obtain ⟨hsucceeds, hleft⟩ := r.turn_of_new request
        (fun h hh => sound h (List.mem_append_left _ (hfirst h hh)))
        (fun h hh => new h (List.mem_append_left _ (hfirst h hh)))
      obtain ⟨hturns, hafter⟩ := ih (r.turn request).left
        (fun h hh => sound h (List.mem_append_right _ hh)) hrest (by
          intro h hh g hg
          rw [hleft] at hg
          rcases List.mem_append.mp hg with hg | hg
          · exact new h (List.mem_append_right _ hh) g hg
          · exact hapart _ (List.mem_map_of_mem hg) _ (List.mem_map_of_mem hh))
      constructor
      · rw [turns_cons]
        exact List.forall_mem_cons.mpr ⟨hsucceeds, hturns⟩
      · rw [after_cons, hafter, hleft, List.append_assoc]

end Registry

/-- Handlers with sound definitions and distinct new keys can be registered in any two orders,
with any other requests in between: all registrations succeed, the tables list the handlers that
were there and the new ones, and the registries cannot be told apart. -/
theorem registration_order_irrelevant (start : Start) (earlier : List Request) {hs : List Handler}
    (sound : ∀ h ∈ hs, h.checkDefinition = .ok ()) (distinct : (hs.map Handler.key).Nodup)
    (new : ∀ h ∈ hs, ∀ g ∈ (start.registry.after earlier).handlers, g.key ≠ h.key)
    {requests others : List Request} (hrequests : (requests.filterMap Request.handler?).Perm hs)
    (hothers : (others.filterMap Request.handler?).Perm hs) :
    (∀ t ∈ (start.registry.after earlier).turns requests, t.Registers) ∧
    (∀ t ∈ (start.registry.after earlier).turns others, t.Registers) ∧
    Lists ((start.registry.after earlier).handlers ++ hs)
      ((start.registry.after earlier).after requests).table.1.handlers ∧
    ((start.registry.after earlier).after requests).SameAnswers
      ((start.registry.after earlier).after others) := by
  have coherent := start.coherent.after earlier
  have hrun : ∀ {run : List Request}, (run.filterMap Request.handler?).Perm hs →
      (∀ t ∈ (start.registry.after earlier).turns run, t.Registers) ∧
        ((start.registry.after earlier).after run).handlers.Perm
          ((start.registry.after earlier).handlers ++ hs) := by
    intro run hperm
    obtain ⟨hturns, hafter⟩ := (start.registry.after earlier).after_of_new run
      (fun h hh => sound h (hperm.mem_iff.mp hh))
      ((hperm.map Handler.key).nodup_iff.mpr distinct)
      (fun h hh => new h (hperm.mem_iff.mp hh))
    exact ⟨hturns, hafter ▸ hperm.append_left _⟩
  obtain ⟨hturns, hafter⟩ := hrun hrequests
  obtain ⟨hturns', hafter'⟩ := hrun hothers
  have hlists := (coherent.after requests).lists_table
  refine ⟨hturns, hturns', ⟨hlists.perm.trans hafter, hlists.ascending⟩, ?_⟩
  exact (coherent.after requests).sameAnswers (coherent.after others) (hafter.trans hafter'.symm)

/-- Two handlers behind a look-up, once with a rebuilt table in between and once with a trigger
that does not find its instruction yet. -/
theorem registration_order_irrelevant_label :
    (∀ h ∈ [maintainerHandler, labelHandler], h.checkDefinition = .ok ()) ∧
    ([maintainerHandler, labelHandler].map Handler.key).Nodup ∧
    (∀ h ∈ [maintainerHandler, labelHandler],
      ∀ g ∈ (Start.builtin.registry.after [.lookup "from" .string]).handlers, g.key ≠ h.key) ∧
    ((Start.builtin.registry.after [.lookup "from" .string]).after
        [.register maintainerHandler, .rebuild, .register labelHandler]).SameAnswers
      ((Start.builtin.registry.after [.lookup "from" .string]).after
        [.register labelHandler, .convert 1 maintainerTrigger, .invalidate,
          .register maintainerHandler]) := by
  have sound : ∀ h ∈ [maintainerHandler, labelHandler], h.checkDefinition = .ok () := by
    simp only [List.forall_mem_cons, List.not_mem_nil, false_implies, implies_true, and_true]
    exact ⟨rfl, rfl⟩
  have distinct : ([maintainerHandler, labelHandler].map Handler.key).Nodup := by decide
  have new : ∀ h ∈ [maintainerHandler, labelHandler],
      ∀ g ∈ (Start.builtin.registry.after [.lookup "from" .string]).handlers, g.key ≠ h.key := by
    have hkeys : ∀ h ∈ [maintainerHandler, labelHandler],
        ∀ key ∈ builtinHandlers.map Handler.key, key ≠ h.key := by decide
    exact fun h hh g hg => hkeys h hh g.key (List.mem_map_of_mem hg)
  have hrequests : ([.register maintainerHandler, .rebuild, .register labelHandler].filterMap
      Request.handler?).Perm [maintainerHandler, labelHandler] := .refl _
  have hothers : ([.register labelHandler, .convert 1 maintainerTrigger, .invalidate,
      .register maintainerHandler].filterMap Request.handler?).Perm
        [maintainerHandler, labelHandler] := .swap _ _ _
  obtain ⟨-, -, -, same⟩ := registration_order_irrelevant .builtin [.lookup "from" .string] sound
    distinct new hrequests hothers
  exact ⟨sound, distinct, new, same⟩

end ImageRecipe
