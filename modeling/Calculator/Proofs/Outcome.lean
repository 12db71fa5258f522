/-! # Outcomes

What is known of the parts of a computation that may fail, if its outcome is known.
-/

namespace Calculator

variable {ε α β : Type} {x : Except ε α} {e : ε}

theorem ok_of_bind {f : α → Except ε β} {b : β} (h : x.bind f = .ok b) :
    ∃ a, x = .ok a ∧ f a = .ok b := by
  cases x with
  | error e => contradiction
  | ok a => exact ⟨a, rfl, h⟩

theorem error_of_bind {f : α → Except ε β} (h : x.bind f = .error e) :
    x = .error e ∨ ∃ a, x = .ok a ∧ f a = .error e := by
  cases x with
  | error e' => exact Or.inl (congrArg Except.error (Except.error.inj h))
  | ok a => exact Or.inr ⟨a, rfl, h⟩

theorem ok_of_map {f : α → β} {b : β} (h : x.map f = .ok b) : ∃ a, x = .ok a ∧ f a = b := by
  cases x with
  | error e => contradiction
  | ok a => exact ⟨a, rfl, Except.ok.inj h⟩

theorem error_of_map {f : α → β} (h : x.map f = .error e) : x = .error e := by
  cases x with
  | error e' => exact congrArg Except.error (Except.error.inj h)
  | ok a => contradiction

theorem ok_of_toOption {a : α} (h : x.toOption = some a) : x = .ok a := by
  cases x with
  | error e => contradiction
  | ok b => exact congrArg Except.ok (Option.some.inj h)

/-- Two outcomes that agree but for a part of their errors are the same value, or both errors. -/
theorem ok_or_error_of_mapError {f : ε → ε} {y : Except ε α}
    (h : x.mapError f = y.mapError f) :
    (∃ a, x = .ok a ∧ y = .ok a) ∨ ∃ d e, x = .error d ∧ y = .error e ∧ f d = f e := by
  cases x with
  | error d =>
    cases y with
    | error e => exact Or.inr ⟨d, e, rfl, rfl, Except.error.inj h⟩
    | ok b => contradiction
  | ok a =>
    cases y with
    | error e => contradiction
    | ok b =>
      obtain rfl : a = b := Except.ok.inj h
      exact Or.inl ⟨a, rfl, rfl⟩

end Calculator
