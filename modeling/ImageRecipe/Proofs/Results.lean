/-!
# Results that are passed on

Readers pass an error on and build on what they got, so behind a success there are the successes
that it was made of, and behind a failure there is the first one.

* `Results.of_map`, `Results.of_bind` : a success that was made of another one
* `Results.ok_of_mapError` : a success whose failure would have been put in other words
* `Results.error_of_map`, `Results.error_of_bind` : a failure that was passed on
* `Results.bind_congr` : what is done with a result matters only for a success
* `Results.eq_ok_of_toOption`, `Results.of_toOption_bind`, `Results.eq_error_of_error?` : results
  one side of which can be decided
* `Results.error?_map` : the error of a result that was passed on
-/

namespace ImageRecipe.Results

variable {ε α β : Type}

theorem of_map {r : Except ε α} {f : α → β} {b : β} (h : r.map f = .ok b) :
    ∃ a, r = .ok a ∧ f a = b := by
  cases r with
  | error e => cases h
  | ok a => exact ⟨a, rfl, Except.ok.inj h⟩

theorem of_bind {r : Except ε α} {f : α → Except ε β} {b : β} (h : r.bind f = .ok b) :
    ∃ a, r = .ok a ∧ f a = .ok b := by
  cases r with
  | error e => cases h
  | ok a => exact ⟨a, rfl, h⟩

theorem error_of_map {r : Except ε α} {f : α → β} {e : ε} (h : r.map f = .error e) :
    r = .error e := by
  cases r with
  | error d => exact congrArg Except.error (Except.error.inj h)
  | ok a => cases h

theorem error_of_bind {r : Except ε α} {f : α → Except ε β} {e : ε} (h : r.bind f = .error e) :
    r = .error e ∨ ∃ a, r = .ok a ∧ f a = .error e := by
  cases r with
  | error d => exact .inl (congrArg Except.error (Except.error.inj h))
  | ok a => exact .inr ⟨a, rfl, h⟩

theorem ok_of_mapError {δ : Type} {r : Except ε α} {f : ε → δ} {a : α}
    (h : r.mapError f = .ok a) : r = .ok a := by
  cases r with
  | error e => cases h
  | ok b => exact congrArg Except.ok (Except.ok.inj h)

theorem bind_congr {r : Except ε α} {f g : α → Except ε β} (h : ∀ a, r = .ok a → f a = g a) :
    r.bind f = r.bind g := by
  cases r with
  | error e => rfl
  | ok a => exact h a rfl

theorem eq_ok_of_toOption {r : Except ε α} {a : α} (h : r.toOption = some a) : r = .ok a := by
  cases r with
  | error e => cases h
  | ok b => exact congrArg Except.ok (Option.some.inj h)

/-- A result that was made of another one, if that it is a success can be decided. -/
theorem of_toOption_bind {δ : Type} {r : Except ε α} {f : α → Except δ β} {b : β}
    (h : (r.toOption.bind fun a => (f a).toOption) = some b) : ∃ a, r = .ok a ∧ f a = .ok b := by
  cases r with
  | error e => cases h
  | ok a => exact ⟨a, rfl, eq_ok_of_toOption h⟩

/-- The error of a result, if it is one. -/
def error? : Except ε α → Option ε
  | .error e => some e
  | .ok _ => none

theorem eq_error_of_error? {r : Except ε α} {e : ε} (h : error? r = some e) : r = .error e := by
  cases r with
  | error d => exact congrArg Except.error (Option.some.inj h)
  | ok a => cases h

theorem error?_eq_some_iff {r : Except ε α} {e : ε} : error? r = some e ↔ r = .error e := by
  constructor
  · exact eq_error_of_error?
  · rintro rfl
    rfl

/-- A result without an error is a success. -/
theorem exists_ok_of_error? {r : Except ε α} (h : error? r = none) : ∃ a, r = .ok a := by
  cases r with
  | error e => cases h
  | ok a => exact ⟨a, rfl⟩

theorem error?_map (r : Except ε α) (f : α → β) : error? (r.map f) = error? r := by
  cases r with
  | error e => rfl
  | ok a => rfl

end ImageRecipe.Results
