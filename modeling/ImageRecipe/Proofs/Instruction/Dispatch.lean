import ImageRecipe.Instruction.Line

/-!
# What a conversion takes from its table

A conversion sees a table only through its look-ups, its own and those of the inner instructions.
A table that finds whatever another one finds therefore gives the same lines and the same errors,
as long as nobody looks behind a look-up that failed.

* `Plan.Propagates` : a plan that never goes on behind a failure of an inner instruction
* `Plan.outcome?_of_agree` : a plan on two kinds of inner conversions
* `lineBy_of_handler` : a conversion, step by step
* `lineBy_of_agree`, `line?_of_agree` : a conversion that meets no missing handler ends alike in
  both tables
* `line?_congr`, `convert?_congr` : tables with equal look-ups have equal lines
* `Converter.line_congr_name` : so have names that are equal in capitals
-/

namespace ImageRecipe

/-- The failure of an inner instruction is at once the failure of the plan. -/
inductive Plan.Propagates : Plan → Prop where
  | done {result : Except InstructionError String} : Propagates (.done result)
  | nested {name : String} {inner : Value} {resume : Except InstructionError String → Plan} :
      (∀ e, resume (.error e) = .fail e) → (∀ line, Propagates (resume (.ok line))) →
        Propagates (.nested name inner resume)

namespace Plan.Propagates

/-- Whatever becomes of the inner instruction, what follows propagates too. -/
theorem resume {name : String} {inner : Value} {resume : Except InstructionError String → Plan}
    (h : Propagates (.nested name inner resume)) (outcome : Except InstructionError String) :
    Propagates (resume outcome) := by
  cases h with
  | nested onError onLine =>
      cases outcome with
      | ok line => exact onLine line
      | error e => rw [onError e]; exact .done

theorem onLine {name : String} {inner : Value} {resume : String → Plan}
    (h : ∀ line, Propagates (resume line)) : Propagates (Plan.onLine name inner resume) :=
  .nested (fun _ => rfl) h

end Plan.Propagates

/-- A plan that propagates ends alike with inner conversions that agree but for `missing` errors,
if it does not end with one itself. -/
theorem Plan.outcome?_of_agree {missing : InstructionError → Prop}
    {line? line?' : String → Value → Option (Except InstructionError String)}
    (agree : ∀ {name v outcome}, line? name v = some outcome →
      (∀ e, missing e → outcome ≠ .error e) → line?' name v = some outcome)
    {plan : Plan} (propagates : (∃ e, missing e) → plan.Propagates)
    {result : Except InstructionError String} (hresult : plan.outcome? line? = some result)
    (found : ∀ e, missing e → result ≠ .error e) : plan.outcome? line?' = some result := by
  induction plan with
  | done _ => exact hresult
  | nested name inner resume ih =>
      simp only [outcome?, Option.bind_eq_bind, Option.bind_eq_some_iff] at hresult ⊢
      obtain ⟨outcome, hinner, hresume⟩ := hresult
      have hnext := ih outcome (fun hm => (propagates hm).resume outcome) hresume
      refine ⟨outcome, agree hinner ?_, hnext⟩
      rintro e he rfl
      -- a missing inner line would have been the plan's own failure
      cases propagates ⟨e, he⟩ with
      | nested onError _ =>
          rw [onError e, Plan.fail, outcome?] at hresume
          exact found e he (Option.some.inj hresume).symm

namespace HandlerTable

variable {t t' : HandlerTable} {missing : InstructionError → Prop}

/-- Where dispatch and validation succeed, the line is what the body comes to. -/
theorem lineBy_of_handler {inner? : String → Value → Option (Except InstructionError String)}
    {name : String} {v : Value} {shape : Shape} {h : Handler} {captures : Option Captures}
    {outcome : Except InstructionError String}
    (hshape : v.dispatchShape name = .ok shape) (hlookup : t.lookup name shape = .ok h)
    (hvalid : h.validate v = .ok captures)
    (hbody : (h.body (h.callFor v captures)).outcome? inner? = some outcome) :
    t.lineBy inner? name v = some (outcome.map h.lineOf) :=
  lineBy_eq_some_iff.mpr
    (.inr (.inr ⟨shape, h, hshape, hlookup, .inr ⟨captures, outcome, hvalid, hbody, rfl⟩⟩))

/-- Two tables agree but for look-ups that fail in the first one with a `missing` error, and so do
inner conversions.  A conversion that ends in the first table without such an error ends in the
second one alike, if bodies do not go on behind one. -/
theorem lineBy_of_agree
    {inner? inner?' : String → Value → Option (Except InstructionError String)}
    (agree : ∀ name shape, t'.lookup name shape = t.lookup name shape ∨
      ∃ e, missing e ∧ t.lookup name shape = .error e)
    (propagate : (∃ e, missing e) → ∀ h ∈ t.handlers, ∀ call, (h.body call).Propagates)
    (hinner : ∀ {name v outcome}, inner? name v = some outcome →
      (∀ e, missing e → outcome ≠ .error e) → inner?' name v = some outcome)
    {name : String} {v : Value} {outcome : Except InstructionError String}
    (hline : t.lineBy inner? name v = some outcome)
    (found : ∀ e, missing e → outcome ≠ .error e) : t'.lineBy inner?' name v = some outcome := by
  have same : ∀ shape found, t.lookup name shape = found →
      (∀ e, missing e → found ≠ .error e) → t'.lookup name shape = found := by
    intro shape found hlookup hfound
    rcases agree name shape with hsame | ⟨e, he, hmissing⟩
    · rw [hsame, hlookup]
    · rw [hlookup] at hmissing
      exact absurd hmissing (hfound e he)
  rw [lineBy_eq_some_iff] at hline ⊢
  rcases hline with hshape | ⟨shape, e, hshape, hlookup, rfl⟩ | ⟨shape, h, hshape, hlookup, hend⟩
  · exact .inl hshape
  · have hother : ∀ e', missing e' → (.error e : Except InstructionError Handler) ≠ .error e' := by
      rintro e' he' ⟨⟩
      exact found e he' rfl
    exact .inr (.inl ⟨shape, e, hshape, same shape _ hlookup hother, rfl⟩)
  · refine .inr (.inr ⟨shape, h, hshape, same shape _ hlookup (fun _ _ => nofun), ?_⟩)
    rcases hend with hinvalid | ⟨captures, result, hvalid, hresult, rfl⟩
    · exact .inl hinvalid
    · refine .inr ⟨captures, result, hvalid, ?_, rfl⟩
      refine Plan.outcome?_of_agree hinner
        (fun hmissing => propagate hmissing h (mem_of_lookup hlookup) _) hresult ?_
      rintro e he rfl
      exact found e he rfl

theorem line?_of_agree
    (agree : ∀ name shape, t'.lookup name shape = t.lookup name shape ∨
      ∃ e, missing e ∧ t.lookup name shape = .error e)
    (propagate : (∃ e, missing e) → ∀ h ∈ t.handlers, ∀ call, (h.body call).Propagates)
    {depth : Nat} {name : String} {v : Value} {outcome : Except InstructionError String}
    (hline : t.line? depth name v = some outcome) (found : ∀ e, missing e → outcome ≠ .error e) :
    t'.line? depth name v = some outcome := by
  -- an inner conversion is allowed one level less, and at depth zero there is none
  induction depth generalizing name v outcome with
  | zero => exact lineBy_of_agree agree propagate (fun hnone _ => by cases hnone) hline found
  | succ depth ih => exact lineBy_of_agree agree propagate ih hline found

/-- The lines of a table depend on nothing but its look-ups. -/
theorem line?_congr (same : ∀ name shape, t'.lookup name shape = t.lookup name shape)
    (depth : Nat) (name : String) (v : Value) : t'.line? depth name v = t.line? depth name v := by
  have agreed : ∀ {t t' : HandlerTable},
      (∀ name shape, t'.lookup name shape = t.lookup name shape) →
        ∀ outcome, t.line? depth name v = some outcome → t'.line? depth name v = some outcome := by
    intro t t' same outcome hline
    -- no error counts as missing here, so nothing is asked of the bodies
    have none_missing : ∀ name shape, t'.lookup name shape = t.lookup name shape ∨
        ∃ e : InstructionError, False ∧ t.lookup name shape = .error e :=
      fun name shape => .inl (same name shape)
    exact line?_of_agree none_missing (fun ⟨_, he⟩ => he.elim) hline (fun _ he => he.elim)
  refine Option.ext fun outcome => ?_
  exact ⟨agreed (fun name shape => (same name shape).symm) outcome, agreed same outcome⟩

theorem convert?_congr (same : ∀ name shape, t'.lookup name shape = t.lookup name shape)
    (depth : Nat) (object : Value) : t'.convert? depth object = t.convert? depth object := by
  simp only [convert?]
  cases object.asInstruction with
  | error e => rfl
  | ok pair => exact line?_congr same depth pair.1 pair.2

end HandlerTable

/-- Names that differ only in the case of ASCII letters have the same lines and the same errors. -/
theorem Converter.line_congr_name (c : Converter) {name other : String}
    (h : Text.asciiUpper name = Text.asciiUpper other) (v : Value) :
    c.line name v = c.line other v := by
  rw [line_eq, line_eq]
  simp only [Value.dispatchShape, HandlerTable.lookup, HandlerKey.of, h]

end ImageRecipe
