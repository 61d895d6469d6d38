import ComicScript.Crash

/-!
# Steps one after another

What several steps give, each of them gives; where they stop, one of them stops and those before it do not. A step whose
reasons to stop are renamed gives the same.
-/

namespace ComicScript
set_option autoImplicit false

section Steps

variable {ε δ α β : Type}

/-- What a computation of two steps gives, its second step gives. -/
theorem exists_of_bind_eq_ok {x : Except ε α} {f : α → Except ε β} {b : β} (h : x >>= f = .ok b) :
    ∃ a, x = .ok a ∧ f a = .ok b := by
  cases x with
  | ok a => exact ⟨a, rfl, h⟩
  | error e => cases h

/-- Where a computation of two steps stops, one of them stops. -/
theorem error_of_bind_eq_error {x : Except ε α} {f : α → Except ε β} {e : ε} (h : x >>= f = .error e) :
    x = .error e ∨ ∃ a, x = .ok a ∧ f a = .error e := by
  cases x with
  | ok a => exact .inr ⟨a, rfl, h⟩
  | error reason =>
    cases h
    exact .inl rfl

theorem eq_ok_of_mapError {f : ε → δ} {x : Except ε α} {a : α} (h : x.mapError f = .ok a) : x = .ok a := by
  cases x with
  | ok a' =>
    cases h
    rfl
  | error e => cases h

theorem eq_error_of_mapError {f : ε → δ} {x : Except ε α} {e : δ} (h : x.mapError f = .error e) :
    ∃ reason, x = .error reason ∧ f reason = e := by
  cases x with
  | ok a => cases h
  | error reason => exact ⟨reason, rfl, Except.error.inj h⟩

theorem exists_of_map_eq_ok {f : α → β} {x : Except ε α} {b : β} (h : x.map f = .ok b) : ∃ a, x = .ok a ∧ f a = b := by
  cases x with
  | ok a => exact ⟨a, rfl, Except.ok.inj h⟩
  | error e => cases h

/-- The text that a step gives, and none where it stops. -/
def textOf (x : Except ε String) : String :=
  x.toOption.getD ""

@[simp] theorem textOf_ok (s : String) : textOf (.ok s : Except ε String) = s := rfl

end Steps

end ComicScript
