/-!
# Steps that may fail

A step gives an error or a value. What steps after one another gave a value of is told from the last to
the first: each of them gave a value, and none of the checks between them failed.
-/

namespace Conform.Attempt

variable {ε α β : Type} {x : Except ε α} {b : β}

/-- A sequence succeeds iff both parts do: callers take a run apart with this and unfold nothing. -/
theorem bind_eq_ok {f : α → Except ε β} : (x >>= f) = .ok b ↔ ∃ a, x = .ok a ∧ f a = .ok b := by
  cases x <;> simp [bind, Except.bind]

theorem map_eq_ok {f : α → β} : x.map f = .ok b ↔ ∃ a, x = .ok a ∧ f a = b := by
  cases x <;> simp [Except.map]

/-- Errors are renamed, values are not. -/
theorem mapError_eq_ok {ε' : Type} {f : ε → ε'} {a : α} : x.mapError f = .ok a ↔ x = .ok a := by
  cases x with
  | error e => constructor <;> intro h <;> cases h
  | ok b =>
    constructor
    · intro h
      exact congrArg Except.ok (Except.ok.inj h)
    · intro h
      exact congrArg Except.ok (Except.ok.inj h)

/-- A step behind a check is taken if the check passes. -/
theorem check_eq_ok {c : Prop} [Decidable c] {e : ε} {k : PUnit → Except ε β} {y : Except ε β} :
    (if c then throw e >>= k else y) = .ok b ↔ ¬c ∧ y = .ok b := by
  by_cases h : c <;> simp [h, throw, throwThe, MonadExceptOf.throw, bind, Except.bind]

end Conform.Attempt
