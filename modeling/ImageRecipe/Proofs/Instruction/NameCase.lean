import ImageRecipe.Proofs.Instruction.Registration
import ImageRecipe.Proofs.Instruction.Traced

/-!
# Names in any case

Instructions go by their names in capitals.  Names that differ in the case of ASCII letters are one
name for registering, looking up and converting, also inside a trigger; and an error names the
capitals, unless a body that is not built in made it.

* `Request.SameButCase` : requests that differ in the case of names
* `HandlerTable.line?_trigger_congr` : the name inside a trigger
* `Registry.CaseBlind`, `session_caseBlind` : all that the case of names does not change, and what
  other differences do
-/

namespace ImageRecipe

/-! ## The same requests -/

/-- The requests are the same but for the case of ASCII letters in the name that they give. -/
inductive Request.SameButCase : Request → Request → Prop where
  | register {h : Handler} {name : String} : Text.SameButCase h.name name →
      SameButCase (.register h) (.register { h with name })
  | lookup {a b : String} {shape : Shape} : Text.SameButCase a b →
      SameButCase (.lookup a shape) (.lookup b shape)
  | convert {depth : Nat} {a b : String} {v : Value} : Text.SameButCase a b →
      SameButCase (.convert depth (.object a v)) (.convert depth (.object b v))
  | same {request : Request} : SameButCase request request

theorem Request.SameButCase.inCapitals_eq {request request' : Request}
    (h : request.SameButCase request') : request.inCapitals = request'.inCapitals := by
  cases h with
  | register h =>
      simp only [Request.inCapitals, Handler.inCapitals, Handler.instruction,
        Text.asciiUpper_eq_iff.mpr h]
  | lookup h => simp only [Request.inCapitals, Text.asciiUpper_eq_iff.mpr h]
  | convert h =>
      simp only [Request.inCapitals, Value.object, Value.inCapitals, Text.asciiUpper_eq_iff.mpr h]
  | same => rfl

/-- Sessions that are the same but for the case of names are answered alike. -/
theorem Registry.runSession_sameButCase (r : Registry) {requests requests' : List Request}
    (h : List.Forall₂ Request.SameButCase requests requests') :
    (r.runSession requests).map (fun answer => answer.1.inCapitals) =
      (r.runSession requests').map fun answer => answer.1.inCapitals := by
  have hcapitals : requests.map Request.inCapitals = requests'.map Request.inCapitals := by
    induction h with
    | nil => rfl
    | cons first _ ih => rw [List.map_cons, List.map_cons, first.inCapitals_eq, ih]
  have hreplies : ∀ requests : List Request,
      (r.runSession requests).map (fun answer => answer.1.inCapitals) =
        (r.inCapitals.runSession (requests.map Request.inCapitals)).map Prod.fst := by
    intro requests
    rw [r.runSession_inCapitals, List.map_map]
    rfl
  rw [hreplies, hreplies, hcapitals]

/-! ## Registries -/

theorem Handler.key_eq_iff {g h : Handler} :
    g.key = h.key ↔ Text.SameButCase g.name h.name ∧ g.shape = h.shape := by
  rw [← Text.asciiUpper_eq_iff, Handler.key, Handler.key, HandlerKey.mk.injEq]
  rfl

/-- In a table that has no other handler for triggers, the case of the name inside does not
matter. -/
theorem HandlerTable.line?_trigger_congr {t : HandlerTable}
    (only : ∀ h ∈ t.handlers, h.key = triggerHandler.key → h = triggerHandler)
    {outer a b : String} (houter : Text.asciiUpper outer = "ONBUILD")
    (h : Text.asciiUpper a = Text.asciiUpper b) (depth : Nat) (v : Value) :
    t.line? depth outer (.object a v) = t.line? depth outer (.object b v) := by
  have hshape : ∀ name, (Value.object name v).dispatchShape outer = .ok .mapping := fun _ => rfl
  have hinner : t.inner? depth a v = t.inner? depth b v := by
    cases depth with
    | zero => rfl
    | succ depth => exact line?_congr_name h depth v
  rw [t.line?_eq]
  simp only [lineBy, hshape]
  cases hlookup : t.lookup outer .mapping with
  | error e => rfl
  | ok g =>
      have hkey : g.key = triggerHandler.key := by
        rw [key_of_lookup hlookup, HandlerKey.of, houter]
        decide
      obtain rfl := only g (mem_of_lookup hlookup) hkey
      have hvalid : ∀ name, triggerHandler.validate (.object name v) = .ok none := fun _ => rfl
      have hbody : ∀ name, triggerHandler.body (triggerHandler.callFor (.object name v) none) =
          if Text.asciiUpper name ∈ Body.notNestable then
            .fail (.notNestable triggerHandler.instruction (Text.asciiUpper name))
          else .onLine name v .text := fun _ => rfl
      simp only [hvalid, hbody, h]
      split
      · rfl
      · rw [Plan.outcome?_onLine, Plan.outcome?_onLine, hinner]

namespace Registry

/-- No handler but the built-in one is found for a trigger. -/
def BuiltinTrigger (r : Registry) : Prop :=
  ∀ h ∈ r.handlers, h.key = triggerHandler.key → h = triggerHandler

/-- Names that differ in the case of ASCII letters, and in nothing else, are one name. -/
structure CaseBlind (r : Registry) : Prop where
  lookup : ∀ {a b : String}, Text.SameButCase a b → ∀ shape, r.lookup a shape = r.lookup b shape
  convert : ∀ {a b : String}, Text.SameButCase a b → ∀ depth v,
    r.convert depth (.object a v) = r.convert depth (.object b v)
  /-- The same for the name inside a trigger, and for both names at once. -/
  trigger : r.BuiltinTrigger → ∀ {outer outer' a b : String}, Text.SameButCase outer "ONBUILD" →
    Text.SameButCase outer' "ONBUILD" → Text.SameButCase a b → ∀ depth v,
      r.convert depth (.object outer (.object a v)) = r.convert depth (.object outer' (.object b v))
  /-- Whatever is registered, looked up and converted from now on: the case of the names shows in
  no answer, those of handlers being shown in capitals. -/
  sessions : ∀ {later later' : List Request}, List.Forall₂ Request.SameButCase later later' →
    (r.runSession later).map (fun answer => answer.1.inCapitals) =
      (r.runSession later').map fun answer => answer.1.inCapitals
  /-- Behind a registration, that of another handler fails as a second one if the names differ in
  their case at most and the shapes do not differ. -/
  taken : ∀ {g h : Handler} {r' s : Registry}, r.register g = .ok r' → r.register h = .ok s →
    Text.SameButCase g.name h.name → g.shape = h.shape →
      r'.register h = .error (.definition (Text.asciiUpper g.name)
        (.duplicate (HandlerKey.of g.name g.shape).text))
  /-- Otherwise it succeeds as before. -/
  free : ∀ {g h : Handler} {r' s : Registry}, r.register g = .ok r' → r.register h = .ok s →
    ¬ (Text.SameButCase g.name h.name ∧ g.shape = h.shape) → ∃ s', r'.register h = .ok s'
  /-- Names that differ in more than the case of ASCII letters find handlers of different
  instructions. -/
  apart : ∀ {a b : String} {shape shape' : Shape} {g h : Handler},
    (r.lookup a shape).1 = .ok g → (r.lookup b shape').1 = .ok h → ¬ Text.SameButCase a b →
      g.instruction ≠ h.instruction
  notFound : ∀ {a : String} {shape : Shape} {e : InstructionError},
    (r.lookup a shape).1 = .error e → e = .noHandler (Text.asciiUpper a) shape
  refused : ∀ {h : Handler} {e : InstructionError},
    r.register h = .error e → e.instruction? = some (Text.asciiUpper h.name)
  failed : ∀ {a : String} {depth : Nat} {v : Value} {e : InstructionError},
    (r.convert depth (.object a v)).1 = some (.error e) → Traced r.table.1 depth a v e

variable {r : Registry}

theorem convert_trigger_congr (coherent : r.Coherent) (only : r.BuiltinTrigger)
    {outer a b : String} (houter : Text.asciiUpper outer = "ONBUILD")
    (h : Text.asciiUpper a = Text.asciiUpper b) (depth : Nat) (v : Value) :
    r.convert depth (.object outer (.object a v)) =
      r.convert depth (.object outer (.object b v)) := by
  have hconvert : ∀ name, r.convert depth (.object outer (.object name v)) =
      (r.table.1.line? depth outer (.object name v), r.table.2) := fun _ => rfl
  have honly : ∀ g ∈ r.table.1.handlers, g.key = triggerHandler.key → g = triggerHandler := by
    intro g hg
    rw [coherent.table_handlers] at hg
    exact only g (HandlerTable.mem_of_mem_sort hg)
  rw [hconvert, hconvert, HandlerTable.line?_trigger_congr honly houter h]

/-- What is registered makes sense. -/
theorem checkDefinition_of_register {h : Handler} {s : Registry} (hh : r.register h = .ok s) :
    h.checkDefinition = .ok () := by
  cases hcheck : h.checkDefinition with
  | error e =>
      rw [register, hcheck] at hh
      cases hh
  | ok sound => rfl

theorem register_taken {g h : Handler} {r' s : Registry} (hg : r.register g = .ok r')
    (hh : r.register h = .ok s) (hkey : g.key = h.key) :
    r'.register h = .error (.definition g.instruction (.duplicate g.key.text)) := by
  obtain ⟨-, rfl⟩ := registered_of_register hg
  have hmem : g ∈ r.handlers ++ [g] := List.mem_append_right _ List.mem_cons_self
  rcases register_cases { r with handlers := r.handlers ++ [g], kept := none } h with
    ⟨-, new, -⟩ | ⟨e, he, -⟩ | ⟨-, -, heq⟩
  · exact absurd hkey (new g hmem)
  · rw [checkDefinition_of_register hh] at he
    cases he
  · have hinstruction : g.instruction = h.instruction := congrArg HandlerKey.instruction hkey
    rw [heq, hkey, hinstruction]

theorem register_free {g h : Handler} {r' s : Registry} (hg : r.register g = .ok r')
    (hh : r.register h = .ok s) (hkey : g.key ≠ h.key) : ∃ s', r'.register h = .ok s' := by
  obtain ⟨-, rfl⟩ := registered_of_register hg
  obtain ⟨new, -⟩ := registered_of_register hh
  rcases register_cases { r with handlers := r.handlers ++ [g], kept := none } h with
    ⟨-, -, heq⟩ | ⟨e, he, -⟩ | ⟨-, ⟨f, hf, hfh⟩, -⟩
  · exact ⟨_, heq⟩
  · rw [checkDefinition_of_register hh] at he
    cases he
  · rcases List.mem_append.mp hf with hf | hf
    · exact absurd hfh (new f hf)
    · obtain rfl := List.mem_singleton.mp hf
      exact absurd hfh hkey

theorem instruction?_of_register {h : Handler} {e : InstructionError}
    (he : r.register h = .error e) : e.instruction? = some h.instruction := by
  rcases r.register_cases h with ⟨-, -, heq⟩ | ⟨e', hcheck, heq⟩ | ⟨-, -, heq⟩
  · rw [heq] at he
    cases he
  · rw [heq] at he
    cases he
    exact Handler.instruction?_of_checkDefinition hcheck
  · rw [heq] at he
    cases he
    rfl

theorem Coherent.caseBlind (coherent : r.Coherent) : r.CaseBlind where
  lookup h shape := by
    simp only [Registry.lookup, HandlerTable.lookup_congr_name (Text.asciiUpper_eq_iff.mpr h)]
  convert h := convert_congr_name (Text.asciiUpper_eq_iff.mpr h)
  trigger := by
    intro only outer outer' a b houter houter' hinner depth v
    have hcapitals : Text.asciiUpper "ONBUILD" = "ONBUILD" := by decide
    rw [← Text.asciiUpper_eq_iff] at houter houter' hinner
    rw [convert_trigger_congr coherent only (houter.trans hcapitals) hinner,
      convert_congr_name (houter.trans houter'.symm)]
  sessions := r.runSession_sameButCase
  taken hg hh hname hshape := register_taken hg hh (Handler.key_eq_iff.mpr ⟨hname, hshape⟩)
  free hg hh hother := register_free hg hh (Handler.key_eq_iff.not.mpr hother)
  apart := by
    intro a b shape shape' g h hg hh hother heq
    have ha := congrArg HandlerKey.instruction (HandlerTable.key_of_lookup hg)
    have hb := congrArg HandlerKey.instruction (HandlerTable.key_of_lookup hh)
    exact hother (Text.asciiUpper_eq_iff.mp (ha.symm.trans (heq.trans hb)))
  notFound := HandlerTable.error_of_lookup
  refused := instruction?_of_register
  failed := by
    intro a depth v e he
    rw [convert_fst] at he
    exact HandlerTable.traced_of_line? he

/-- The built-in handlers stay, and no other one comes under their keys. -/
theorem builtinTrigger_after (requests : List Request) :
    (Start.builtin.registry.after requests).BuiltinTrigger := by
  intro h hmem hkey
  have htrigger : triggerHandler ∈ (Start.builtin.registry.after requests).handlers := by
    rw [after_handlers]
    exact List.mem_append_left _ triggerHandler_mem
  exact (Start.builtin.coherent.after requests).eq_of_key hmem htrigger hkey

end Registry

/-- After every session names are one name if they differ at most in the case of ASCII letters, and
two if they differ in more: for registering, looking up and converting, and inside the built-in
trigger, which no other handler can replace. -/
theorem session_caseBlind (start : Start) (requests : List Request) :
    (start.registry.after requests).CaseBlind ∧
      (Start.builtin.registry.after requests).BuiltinTrigger :=
  ⟨(start.coherent.after requests).caseBlind, Registry.builtinTrigger_after requests⟩

/-- A second handler whose name differs in its case is refused, a trigger has one line in all
cases, and a letter outside ASCII is not its capital. -/
theorem session_caseBlind_maintainer :
    Text.SameButCase "maintainer" "MaintaineR" ∧ ¬ Text.SameButCase "é" "É" ∧
    (∃ r' s, (Start.builtin.registry.after []).register maintainerHandler = .ok r' ∧
      (Start.builtin.registry.after []).register { maintainerHandler with name := "MaintaineR" } =
        .ok s ∧
      r'.register { maintainerHandler with name := "MaintaineR" } =
        .error (.definition "MAINTAINER" (.duplicate "MAINTAINER (string)"))) ∧
    ((Start.builtin.registry.after [.register maintainerHandler]).convert 1
      (.object "onBuild" (.object "MaintaineR" (.string "me")))).1 =
        some (.ok "ONBUILD MAINTAINER me") := by
  obtain ⟨blind, -⟩ := session_caseBlind .builtin []
  obtain ⟨blind', only⟩ := session_caseBlind .builtin [.register maintainerHandler]
  have hname : Text.SameButCase "maintainer" "MaintaineR" :=
    Text.asciiUpper_eq_iff.mp (by decide)
  have hinner : Text.SameButCase "MaintaineR" "Maintainer" :=
    Text.asciiUpper_eq_iff.mp (by decide +kernel)
  have houter : Text.SameButCase "onBuild" "ONBUILD" :=
    Text.asciiUpper_eq_iff.mp (by decide)
  have houter' : Text.SameButCase "onbuild" "ONBUILD" :=
    Text.asciiUpper_eq_iff.mp (by decide)
  refine ⟨hname, ?_, ?_, ?_⟩
  · rw [← Text.asciiUpper_eq_iff]
    decide
  · obtain ⟨r', hr⟩ : ∃ r', (Start.builtin.registry.after []).register maintainerHandler = .ok r' :=
      ⟨_, rfl⟩
    obtain ⟨s, hs⟩ : ∃ s, (Start.builtin.registry.after []).register
        { maintainerHandler with name := "MaintaineR" } = .ok s := ⟨_, rfl⟩
    refine ⟨r', s, hr, hs, ?_⟩
    have hcapitals : Text.asciiUpper maintainerHandler.name = "MAINTAINER" := by decide
    have htext : (HandlerKey.of maintainerHandler.name maintainerHandler.shape).text =
        "MAINTAINER (string)" := by decide
    rw [blind.taken hr hs hname rfl, hcapitals, htext]
  · rw [blind'.trigger only houter houter' hinner]
    rfl

end ImageRecipe
