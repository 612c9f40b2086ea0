import Conform.Journal

/-!
# Runs as functions of their state

A run takes a journal and gives a result together with the journal it leaves; other steps that may
fail do the same with what has been created. These are the equations: what sequencing does to the
state, and what a finished sequence says about its two parts.
-/

namespace Conform.Run

variable {α β : Type}

section Sequence

variable {ε σ : Type} {x : ExceptT ε (StateM σ) α} {f : α → ExceptT ε (StateM σ) β} {j j' : σ}

/-- A sequence of runs on a journal, by how the first part ends. Step proofs rewrite with it and
never open the monad. -/
theorem bind_apply (x : ExceptT ε (StateM σ) α) (f : α → ExceptT ε (StateM σ) β) (j : σ) :
    (x >>= f) j = match x j with
      | (.ok a, j') => f a j'
      | (.error e, j') => (.error e, j') := by
  show (ExceptT.bind x f) j = _
  simp only [ExceptT.bind, ExceptT.mk, bind, StateT.bind]
  rcases x j with ⟨a | a, j'⟩ <;> rfl

theorem bind_of_ok {a : α} (h : x j = (.ok a, j')) : (x >>= f) j = f a j' := by
  rw [bind_apply, h]

theorem bind_of_error {e : ε} (h : x j = (.error e, j')) : (x >>= f) j = (.error e, j') := by
  rw [bind_apply, h]

theorem bind_pure_apply (x : ExceptT ε (StateM σ) α) (f : α → β) (j : σ) :
    (x >>= fun a => pure (f a)) j = ((x j).1.map f, (x j).2) := by
  rw [bind_apply]
  rcases x j with ⟨e | a, j'⟩ <;> rfl

/-- A sequence that succeeds is two runs that succeed. -/
theorem bind_eq_ok {b : β} :
    (x >>= f) j = (.ok b, j') ↔ ∃ a j₁, x j = (.ok a, j₁) ∧ f a j₁ = (.ok b, j') := by
  rw [bind_apply]
  rcases x j with ⟨e | a, j₁⟩
  · constructor
    · intro h; cases h
    · rintro ⟨_, _, h, _⟩; cases h
  · constructor
    · intro h; exact ⟨a, j₁, rfl, h⟩
    · rintro ⟨_, _, h, h'⟩; cases h; exact h'

/-- A sequence that fails fails in its first run, or in its second. -/
theorem error_of_bind {e : ε} (h : (x >>= f) j = (.error e, j')) :
    x j = (.error e, j') ∨ ∃ a j₁, x j = (.ok a, j₁) ∧ f a j₁ = (.error e, j') := by
  rw [bind_apply] at h
  rcases hx : x j with ⟨e' | a, j₁⟩ <;> rw [hx] at h
  · cases h
    exact .inl rfl
  · exact .inr ⟨a, j₁, rfl, h⟩

/-- What each step of a fold keeps is kept by the fold. -/
theorem invariant_of_foldlM {step : β → α → ExceptT ε (StateM σ) β} {I : β → Prop}
    (kept : ∀ b a j b' j', I b → step b a j = (.ok b', j') → I b') {as : List α} {b b' : β}
    (start : I b) (h : as.foldlM step b j = (.ok b', j')) : I b' := by
  induction as generalizing b j with
  | nil =>
    cases h
    exact start
  | cons a as ih =>
    rw [List.foldlM_cons] at h
    obtain ⟨b₁, j₁, first, rest⟩ := bind_eq_ok.1 h
    exact ih (kept b a j b₁ j₁ start first) rest

end Sequence

/-! ## Quiet runs

A quiet run creates nothing, and what it gives depends on what has been created, not on what has
been logged. -/

/-- The run leaves the session as it is and its result depends on nothing else in the journal. -/
structure Quiet (x : Run α) : Prop where
  session : ∀ j, (x j).2.session = j.session
  answer : ∀ j j', j.session = j'.session → (x j).1 = (x j').1

namespace Quiet

theorem pure (a : α) : Quiet (Pure.pure a : Run α) := ⟨fun _ => rfl, fun _ _ _ => rfl⟩

theorem throw (e : ParseError) : Quiet (MonadExcept.throw e : Run α) :=
  ⟨fun _ => rfl, fun _ _ _ => rfl⟩

/-- Quiet parts make a quiet sequence: the second starts in the session in which the first did. -/
theorem bind {x : Run α} {f : α → Run β} (hx : Quiet x) (hf : ∀ a, Quiet (f a)) :
    Quiet (x >>= f) where
  session j := by
    have kept := hx.session j
    rw [bind_apply]
    rcases h : x j with ⟨e | a, j'⟩ <;> rw [h] at kept
    · exact kept
    · exact ((hf a).session j').trans kept
  answer j j' same := by
    have first := hx.answer j j' same
    have kept := hx.session j
    have kept' := hx.session j'
    rw [bind_apply, bind_apply]
    rcases h : x j with ⟨e | a, k⟩ <;> rcases h' : x j' with ⟨e' | a', k'⟩ <;>
      rw [h] at first kept <;> rw [h'] at first kept' <;> cases first
    · rfl
    · exact (hf a).answer k k' (kept.trans (same.trans kept'.symm))

theorem foldlM {step : β → α → Run β} (h : ∀ b a, Quiet (step b a)) (as : List α) (b : β) :
    Quiet (as.foldlM step b) := by
  induction as generalizing b with
  | nil => exact .pure b
  | cons a as ih =>
    rw [List.foldlM_cons]
    exact (h b a).bind ih

end Quiet

end Conform.Run
