import Conform.Proofs.Run

/-!
# Turns

A fold that may fail comes to its elements one after the other. The turn of an element comes if all those
before it pass. A fold that fails does so at some element whose turn has come; in one that passes each
turn comes, and what holds after it holds at the end, unless a later element gives it up.
-/

namespace Conform

/-- Going through a list, where each element that passes changes the state, the turn of this element
comes in this state. -/
inductive Turn {α σ : Type} (passes : σ → α → σ → Prop) : List α → σ → α → σ → Prop where
  | head (a : α) (as : List α) (s : σ) : Turn passes (a :: as) s a s
  | tail {a b : α} {as : List α} {s s' s'' : σ} : passes s a s' → Turn passes as s' b s'' →
    Turn passes (a :: as) s b s''

/-- The step passes from the one state to the other. -/
def Run.Passes {α β : Type} (step : β → α → Run β) (s : β × Journal) (a : α) (s' : β × Journal) : Prop :=
  step s.1 a s.2 = (.ok s'.1, s'.2)

/-- What holds of the state to begin with, and is kept, holds when the turn of an element comes. -/
theorem Turn.invariant {α σ : Type} {passes : σ → α → σ → Prop} {P : σ → Prop}
    (kept : ∀ s a s', passes s a s' → P s → P s') {as : List α} {a : α} {s s' : σ}
    (h : Turn passes as s a s') (start : P s) : P s' := by
  induction h with
  | head => exact start
  | tail pass _ ih => exact ih (kept _ _ _ pass start)

/-- A fold that fails does so at some element. -/
theorem Run.turn_of_foldlM {α β : Type} {step : β → α → Run β} {as : List α} {b : β} {j k : Journal}
    {e : ParseError} (h : as.foldlM step b j = (.error e, k)) :
    ∃ a b' j', Turn (Passes step) as (b, j) a (b', j') ∧ step b' a j' = (.error e, k) := by
  induction as generalizing b j with
  | nil => cases h
  | cons a as ih =>
    rw [List.foldlM_cons] at h
    rcases error_of_bind h with failed | ⟨b₁, j₁, first, rest⟩
    · exact ⟨a, b, j, .head a as _, failed⟩
    · obtain ⟨a', b', j', turn, failed⟩ := ih rest
      have pass : Passes step (b, j) a (b₁, j₁) := first
      exact ⟨a', b', j', .tail pass turn, failed⟩

/-! ## Folds that pass -/

namespace Run

variable {α β : Type} {P : β → Prop} {step : β → α → Run β} {as : List α} {b b' : β} {j k : Journal}

/-- At one of its elements the fold gives up what held until then. -/
def GivesUp (P : β → Prop) (step : β → α → Run β) (as : List α) (b : β) (j : Journal) : Prop :=
  ∃ a s s', Turn (Passes step) as (b, j) a s ∧ Passes step s a s' ∧ P s.1 ∧ ¬P s'.1

/-- One that passes in front of a fold that gives up leaves it giving up. -/
theorem GivesUp.cons {a : α} {b₁ : β} {j₁ : Journal} (pass : Passes step (b, j) a (b₁, j₁))
    (h : GivesUp P step as b₁ j₁) : GivesUp P step (a :: as) b j := by
  obtain ⟨c, s, s', turn, lost⟩ := h
  exact ⟨c, s, s', .tail pass turn, lost⟩

/-- What holds before a fold holds after it, unless it is given up on the way. -/
theorem holds_or_givesUp (start : P b) (ran : as.foldlM step b j = (.ok b', k)) :
    P b' ∨ GivesUp P step as b j := by
  induction as generalizing b j with
  | nil =>
    cases ran
    exact .inl start
  | cons a as ih =>
    rw [List.foldlM_cons] at ran
    obtain ⟨b₁, j₁, first, rest⟩ := bind_eq_ok.1 ran
    have pass : Passes step (b, j) a (b₁, j₁) := first
    by_cases kept : P b₁
    · exact (ih kept rest).imp_right (.cons pass)
    · exact .inr ⟨a, (b, j), (b₁, j₁), .head a as _, pass, start, kept⟩

/-- In a fold that passes each element does, and what holds after it holds at the end, unless it is given
up on the way. -/
theorem passes_of_turn {a : α} {s : β × Journal} (turn : Turn (Passes step) as (b, j) a s)
    (ran : as.foldlM step b j = (.ok b', k)) :
    ∃ s', Passes step s a s' ∧ (P s'.1 → P b' ∨ GivesUp P step as b j) := by
  induction as generalizing b j with
  | nil => cases turn
  | cons c as ih =>
    rw [List.foldlM_cons] at ran
    obtain ⟨b₁, j₁, first, rest⟩ := bind_eq_ok.1 ran
    have pass : Passes step (b, j) c (b₁, j₁) := first
    cases turn with
    | head => exact ⟨(b₁, j₁), pass, fun kept => (holds_or_givesUp kept rest).imp_right (.cons pass)⟩
    | tail pass' turn =>
      cases pass.symm.trans pass'
      obtain ⟨s', passes, kept⟩ := ih turn rest
      exact ⟨s', passes, fun holds => (kept holds).imp_right (.cons pass)⟩

end Run

end Conform
