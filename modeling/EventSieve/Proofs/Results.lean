/-!
# Results

A result is a value or an error. What is known of a result that has been mapped says what
the result was.
-/

namespace EventSieve

variable {ε α β : Type} {result : Except ε α} {f : α → β} {b : β}

theorem Except.map_eq_ok_iff : result.map f = .ok b ↔ ∃ a, result = .ok a ∧ f a = b := by
  cases result with
  | error fault => simp [Except.map]
  | ok a => simp [Except.map]

theorem Except.ok_bind (a : α) (f : α → Except ε β) : (Except.ok a >>= f) = f a := rfl

theorem Except.exists_ok_of_map_toOption (h : result.toOption.map f = some b) :
    ∃ a, result = .ok a ∧ f a = b := by
  cases result with
  | error fault => cases h
  | ok a => exact ⟨a, rfl, Option.some.inj h⟩

end EventSieve
