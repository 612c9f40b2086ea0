import Conform.Proofs.Run
import Mathlib.Data.List.Forall2

/-!
# Runs in step

Two runs on inputs that differ in something inessential are compared by what they come to: values that
are related, or errors that are. They may create symbols and functions on the way, so what has been
created is compared too. Sequencing keeps two runs in step, so two folds over related lists are in step
if their steps are.

Where it is only symbols that matter, and neither run creates any, the two agree under the symbols that
there are.
-/

namespace Conform

/-- Two results of one kind: related values, or related errors. -/
inductive Alike {ε ε' α α' : Type} (E : ε → ε' → Prop) (A : α → α' → Prop) :
    Except ε α → Except ε' α' → Prop where
  | ok {a : α} {a' : α'} : A a a' → Alike E A (.ok a) (.ok a')
  | error {e : ε} {e' : ε'} : E e e' → Alike E A (.error e) (.error e')

/-- Outcomes are related to themselves where faults and values are. -/
theorem Alike.refl {ε α : Type} {E : ε → ε → Prop} {A : α → α → Prop} (error : ∀ e, E e e)
    (ok : ∀ a, A a a) (r : Except ε α) : Alike E A r r := by
  cases r with
  | ok a => exact .ok (ok a)
  | error e => exact .error (error e)

theorem Alike.mono {ε ε' α α' : Type} {E E' : ε → ε' → Prop} {A A' : α → α' → Prop} {r : Except ε α}
    {r' : Except ε' α'} (h : Alike E A r r') (error : ∀ e e', E e e' → E' e e')
    (ok : ∀ a a', A a a' → A' a a') : Alike E' A' r r' := by
  cases h with
  | ok same => exact .ok (ok _ _ same)
  | error same => exact .error (error _ _ same)

theorem Alike.map {ε ε' α α' β β' : Type} {E : ε → ε' → Prop} {A : α → α' → Prop} {B : β → β' → Prop}
    {r : Except ε α} {r' : Except ε' α'} {f : α → β} {g : α' → β'} (h : Alike E A r r')
    (ok : ∀ a a', A a a' → B (f a) (g a')) : Alike E B (r.map f) (r'.map g) := by
  cases h with
  | ok same => exact .ok (ok _ _ same)
  | error same => exact .error same

theorem Alike.eq {ε α : Type} {r r' : Except ε α} (h : Alike Eq Eq r r') : r = r' := by
  cases h with
  | ok same => rw [same]
  | error same => rw [same]

namespace Run

variable {α α' β β' : Type} {R : Session → Session → Prop} {E : ParseError → ParseError → Prop}
  {A : α → α' → Prop} {B : β → β' → Prop}

/-! ## In step -/

/-- The ends of two runs: related sessions, and results alike. -/
structure EndAlike (R : Session → Session → Prop) (E : ParseError → ParseError → Prop)
    (A : α → α' → Prop) (x : Except ParseError α × Journal) (y : Except ParseError α' × Journal) :
    Prop where
  sessions : R x.2.session y.2.session
  results : Alike E A x.1 y.1

/-- From related sessions the two runs come to ends alike. -/
def InStep (R : Session → Session → Prop) (E : ParseError → ParseError → Prop) (A : α → α' → Prop)
    (x : Run α) (y : Run α') : Prop :=
  ∀ j j' : Journal, R j.session j'.session → EndAlike R E A (x j) (y j')

theorem EndAlike.mono {E' : ParseError → ParseError → Prop} {A' : α → α' → Prop}
    {x : Except ParseError α × Journal} {y : Except ParseError α' × Journal} (h : EndAlike R E A x y)
    (error : ∀ e e', E e e' → E' e e') (ok : ∀ a a', A a a' → A' a a') : EndAlike R E' A' x y :=
  ⟨h.sessions, h.results.mono error ok⟩

/-- Two runs that have come to ends alike go on in step. -/
theorem EndAlike.bind {x : Run α} {y : Run α'} {f : α → Run β} {g : α' → Run β'} {j j' : Journal}
    (h : EndAlike R E A (x j) (y j')) (next : ∀ a a', A a a' → InStep R E B (f a) (g a')) :
    EndAlike R E B ((x >>= f) j) ((y >>= g) j') := by
  obtain ⟨sessions, results⟩ := h
  rw [bind_apply, bind_apply]
  rcases hx : x j with ⟨e | a, k⟩ <;> rcases hy : y j' with ⟨e' | a', k'⟩ <;>
    rw [hx, hy] at sessions results <;> cases results
  · exact ⟨sessions, .error ‹_›⟩
  · exact next a a' ‹_› k k' sessions

/-- Two runs with a common beginning end alike if they do so from where that ends. -/
theorem EndAlike.of_common {x : Run α} {f : α → Run β} {g : α → Run β'} {j : Journal}
    (created : ∀ s, R s s) (error : ∀ e, E e e)
    (next : ∀ a k, x j = (.ok a, k) → EndAlike R E B (f a k) (g a k)) :
    EndAlike R E B ((x >>= f) j) ((x >>= g) j) := by
  rw [bind_apply, bind_apply]
  rcases hx : x j with ⟨e | a, k⟩
  · exact ⟨created _, .error (error e)⟩
  · exact next a k hx

namespace InStep

theorem mono {E' : ParseError → ParseError → Prop} {A' : α → α' → Prop} {x : Run α} {y : Run α'}
    (h : InStep R E A x y) (error : ∀ e e', E e e' → E' e e') (ok : ∀ a a', A a a' → A' a a') :
    InStep R E' A' x y :=
  fun j j' hj => (h j j' hj).mono error ok

theorem pure {a : α} {a' : α'} (h : A a a') : InStep R E A (Pure.pure a) (Pure.pure a') :=
  fun _ _ hj => ⟨hj, .ok h⟩

theorem throw {e e' : ParseError} (h : E e e') :
    InStep R E A (MonadExcept.throw e) (MonadExcept.throw e') :=
  fun _ _ hj => ⟨hj, .error h⟩

/-- Runs in step stay so in sequence, if their second parts do for related values. -/
theorem bind {x : Run α} {y : Run α'} {f : α → Run β} {g : α' → Run β'} (h : InStep R E A x y)
    (next : ∀ a a', A a a' → InStep R E B (f a) (g a')) : InStep R E B (x >>= f) (y >>= g) :=
  fun j j' hj => (h j j' hj).bind next

/-- Folds over related lists stay in step, by induction on the lists. -/
theorem foldlM {step : β → α → Run β} {step' : β' → α' → Run β'}
    (h : ∀ b b' a a', B b b' → A a a' → InStep R E B (step b a) (step' b' a')) {as : List α}
    {as' : List α'} (related : List.Forall₂ A as as') {b : β} {b' : β'} (start : B b b') :
    InStep R E B (as.foldlM step b) (as'.foldlM step' b') := by
  induction related generalizing b b' with
  | nil => exact .pure start
  | cons first _ ih =>
    rw [List.foldlM_cons, List.foldlM_cons]
    exact (h _ _ _ _ start first).bind fun _ _ => ih

end InStep

/-! ## Agreement -/

/-- Under this table of symbols, which both leave as it is, the two runs come to results alike. -/
structure Agree (t : SymbolTable) (E : ParseError → ParseError → Prop) (A : α → α' → Prop)
    (x : Run α) (y : Run α') : Prop where
  first : ∀ j, j.session.symbols = t → (x j).2.session.symbols = t
  second : ∀ j, j.session.symbols = t → (y j).2.session.symbols = t
  alike : ∀ j j', j.session.symbols = t → j'.session.symbols = t → Alike E A (x j).1 (y j').1

/-- Two sessions in which these symbols exist and no others. -/
def BothHave (t : SymbolTable) (s s' : Session) : Prop :=
  s.symbols = t ∧ s'.symbols = t

variable {t : SymbolTable}

/-- To agree is to be in step from any two sessions with these symbols. -/
theorem agree_iff_inStep {x : Run α} {y : Run α'} :
    Agree t E A x y ↔ InStep (BothHave t) E A x y := by
  constructor
  · intro h j j' hj
    exact ⟨⟨h.first j hj.1, h.second j' hj.2⟩, h.alike j j' hj.1 hj.2⟩
  · intro h
    exact ⟨fun j hj => (h j j ⟨hj, hj⟩).sessions.1, fun j hj => (h j j ⟨hj, hj⟩).sessions.2,
      fun j j' hj hj' => (h j j' ⟨hj, hj'⟩).results⟩

namespace Agree

/-- Quiet runs agree as soon as their outcomes do. -/
theorem of_quiet {x : Run α} {y : Run α'} (hx : Quiet x) (hy : Quiet y)
    (alike : ∀ j j', j.session.symbols = t → j'.session.symbols = t →
      Alike E A (x j).1 (y j').1) : Agree t E A x y where
  first j hj := by rw [hx.session, hj]
  second j hj := by rw [hy.session, hj]
  alike := alike

theorem mono {A' : α → α' → Prop} {x : Run α} {y : Run α'} (h : Agree t E A x y)
    (imp : ∀ a a', A a a' → A' a a') : Agree t E A' x y :=
  agree_iff_inStep.2 ((agree_iff_inStep.1 h).mono (fun _ _ same => same) imp)

theorem pure {a : α} {a' : α'} (h : A a a') : Agree t E A (Pure.pure a) (Pure.pure a') :=
  agree_iff_inStep.2 (.pure h)

theorem throw {e e' : ParseError} (h : E e e') :
    Agree t E A (MonadExcept.throw e) (MonadExcept.throw e') :=
  agree_iff_inStep.2 (.throw h)

theorem bind {x : Run α} {y : Run α'} {f : α → Run β} {g : α' → Run β'} (h : Agree t E A x y)
    (next : ∀ a a', A a a' → Agree t E B (f a) (g a')) : Agree t E B (x >>= f) (y >>= g) :=
  agree_iff_inStep.2 ((agree_iff_inStep.1 h).bind fun a a' same => agree_iff_inStep.1 (next a a' same))

end Agree

end Run

end Conform
