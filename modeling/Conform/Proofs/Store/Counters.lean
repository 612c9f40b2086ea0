import Conform.Proofs.Store.History

/-!
# Counters

A slot counts in exact integers: an empty slot stands for zero, and a sum is stored if it fits into 64
bits. `AddsExactly` says what one call gives and leaves, for every store; a succession of calls is followed by
the integer that the slot counts on from. What the calls leave is the integer before with the numbers
that were added, so the order of calls that all succeed makes no difference.

`addsExactly_of_fits`, `addsExactly_of_not_fits` and `addsExactly_of_other` are the cases of a call.
-/

namespace Conform

/-- An integer that 64 bits hold. -/
def Fits (i : Int) : Prop :=
  leastInt64 ≤ i ∧ i ≤ greatestInt64

instance (i : Int) : Decidable (Fits i) :=
  inferInstanceAs (Decidable (_ ∧ _))

theorem exists_of_fits {i : Int} (h : Fits i) : ∃ j : Int64, j.toInt = i :=
  ⟨Int64.ofInt i, toInt64?_eq_some_iff.1 (if_pos h)⟩

theorem toInt64?_of_not_fits {i : Int} (h : ¬Fits i) : toInt64? i = none :=
  if_neg h

namespace Store

variable {s : Store} {a : Slot} {delta : Int64} {n : Int}

/-- The integer that a slot counts on from: the one that it holds, or zero if it is empty. -/
def tally? (s : Store) (a : Slot) : Option Int :=
  match s.get? a with
  | none => some 0
  | some (.integer i) => some i.toInt
  | some _ => none

theorem tally?_of_integer {i : Int64} (h : s.get? a = some (.integer i)) : s.tally? a = some i.toInt := by
  rw [tally?, h]

/-- A slot has no tally iff it holds something that is no integer. An empty slot counts from zero. -/
theorem tally?_eq_none_iff :
    s.tally? a = none ↔ ∃ t, s.get? a = some t ∧ ∀ i, t ≠ .integer i := by
  unfold tally?
  cases s.get? a with
  | none => simp
  | some t => cases t <;> simp

theorem not_other_of_tally {t : Term} (held : s.tally? a = some n) (value : s.get? a = some t) :
    ¬∀ i, t ≠ .integer i := by
  intro other
  have nothing := tally?_eq_none_iff.2 ⟨t, value, other⟩
  rw [held] at nothing
  cases nothing

/-! ## One call -/

/-- The slot's integer decides. An empty slot takes every number: it is of 64 bits itself. -/
theorem count_of_tally (held : s.tally? a = some n) (delta : Int64) :
    s.count a delta = (toInt64? (n + delta.toInt)).elim (.error (.overflow a delta)) .ok := by
  unfold tally? at held
  unfold count
  cases value : s.get? a with
  | none =>
    rw [value] at held
    obtain rfl := Option.some.inj held
    rw [Int.zero_add, toInt64?_eq_some_iff.2 rfl]
    rfl
  | some t =>
    rw [value] at held
    cases t with
    | integer i =>
      obtain rfl := Option.some.inj held
      dsimp only
      cases toInt64? (i.toInt + delta.toInt) <;> rfl
    | _ => cases held

/-- A sum that fits is given and stored. -/
theorem increment_of_fits {i : Int64} (held : s.tally? a = some n) (sum : i.toInt = n + delta.toInt) :
    s.increment a delta = (.ok i, s.put a (.integer i)) := by
  rw [increment, count_of_tally held, toInt64?_eq_some_iff.2 sum]
  rfl

/-- A sum that does not fit is refused. -/
theorem increment_of_not_fits (held : s.tally? a = some n) (large : ¬Fits (n + delta.toInt)) :
    s.increment a delta = (.error (.overflow a delta), s) := by
  rw [increment, count_of_tally held, toInt64?_of_not_fits large]
  rfl

/-- What is no integer is not counted up. -/
theorem increment_of_other {t : Term} (value : s.get? a = some t) (other : ∀ i, t ≠ .integer i)
    (delta : Int64) : s.increment a delta = (.error (.notInteger a t.kind), s) := by
  suffices counted : s.count a delta = .error (.notInteger a t.kind) by rw [increment, counted]
  unfold count
  rw [value]
  cases t with
  | integer i => exact absurd rfl (other i)
  | _ => rfl

/-- A call that adds exactly, or tells why it does not. -/
structure AddsExactly (s : Store) (a : Slot) (delta : Int64) : Prop where
  succeeds : (∃ i, (s.increment a delta).1 = .ok i) ↔
    ∃ n, s.tally? a = some n ∧ Fits (n + delta.toInt)
  sum : ∀ i, (s.increment a delta).1 = .ok i → s.tally? a = some (i.toInt - delta.toInt) ∧
    (s.increment a delta).2.get? a = some (.integer i)
  notInteger : ∀ slot kind, (s.increment a delta).1 = .error (.notInteger slot kind) ↔
    slot = a ∧ ∃ t, s.get? a = some t ∧ (∀ i, t ≠ .integer i) ∧ kind = t.kind
  overflow : ∀ slot number, (s.increment a delta).1 = .error (.overflow slot number) ↔
    slot = a ∧ number = delta ∧ ∃ n, s.tally? a = some n ∧ ¬Fits (n + delta.toInt)
  refused : ∀ fault, (s.increment a delta).1 = .error fault → (s.increment a delta).2 = s
  others : ∀ b, b ≠ a → (s.increment a delta).2.get? b = s.get? b

/-- The step where the sum fits: it is stored and answered. -/
theorem addsExactly_of_fits (held : s.tally? a = some n) (fits : Fits (n + delta.toInt)) :
    s.AddsExactly a delta := by
  obtain ⟨i, sum⟩ := exists_of_fits fits
  have call := increment_of_fits held sum
  constructor <;> rw [call]
  case succeeds => exact ⟨fun _ => ⟨n, held, fits⟩, fun _ => ⟨i, rfl⟩⟩
  case sum =>
    rintro j ⟨⟩
    rw [held, sum, Int.add_sub_cancel]
    exact ⟨rfl, (get?_put s a a _).trans (if_pos rfl)⟩
  case notInteger =>
    refine fun slot kind => ⟨by simp, ?_⟩
    rintro ⟨-, t, value, other, -⟩
    exact absurd other (not_other_of_tally held value)
  case overflow =>
    refine fun slot number => ⟨by simp, ?_⟩
    rintro ⟨-, -, m, again, large⟩
    obtain rfl := Option.some.inj (held.symm.trans again)
    exact absurd fits large
  case refused => simp
  case others => exact fun b other => (get?_put s a b _).trans (if_neg (Ne.symm other))

/-- The step where the sum is too large: nothing is stored. -/
theorem addsExactly_of_not_fits (held : s.tally? a = some n) (large : ¬Fits (n + delta.toInt)) :
    s.AddsExactly a delta := by
  have call := increment_of_not_fits held large
  constructor <;> rw [call]
  case succeeds =>
    refine ⟨by simp, ?_⟩
    rintro ⟨m, again, fits⟩
    obtain rfl := Option.some.inj (held.symm.trans again)
    exact absurd fits large
  case sum => simp
  case notInteger =>
    refine fun slot kind => ⟨by simp, ?_⟩
    rintro ⟨-, t, value, other, -⟩
    exact absurd other (not_other_of_tally held value)
  case overflow =>
    refine fun slot number => ⟨?_, ?_⟩
    · rintro ⟨⟩
      exact ⟨rfl, rfl, n, held, large⟩
    · rintro ⟨rfl, rfl, -⟩
      rfl
  case refused => exact fun _ _ => rfl
  case others => exact fun _ _ => rfl

/-- The step where the slot holds no integer: nothing is stored. -/
theorem addsExactly_of_other {t : Term} (value : s.get? a = some t) (other : ∀ i, t ≠ .integer i) :
    s.AddsExactly a delta := by
  have call := increment_of_other value other delta
  have nothing := tally?_eq_none_iff.2 ⟨t, value, other⟩
  constructor <;> rw [call]
  case succeeds => simp [nothing]
  case sum => simp
  case notInteger =>
    refine fun slot kind => ⟨?_, ?_⟩
    · rintro ⟨⟩
      exact ⟨rfl, t, value, other, rfl⟩
    · rintro ⟨rfl, t', again, -, rfl⟩
      obtain rfl := Option.some.inj (value.symm.trans again)
      rfl
  case overflow => simp [nothing]
  case refused => exact fun _ _ => rfl
  case others => exact fun _ _ => rfl

/-- **One call.** Whatever is stored, it adds exactly. -/
theorem addsExactly (s : Store) (a : Slot) (delta : Int64) : s.AddsExactly a delta := by
  cases held : s.tally? a with
  | none =>
    obtain ⟨t, value, other⟩ := tally?_eq_none_iff.1 held
    exact addsExactly_of_other value other
  | some n =>
    by_cases fits : Fits (n + delta.toInt)
    · exact addsExactly_of_fits held fits
    · exact addsExactly_of_not_fits held fits

/-! ## Calls one after another -/

/-- Counting up by several numbers in turn: the answers, and the store in the end. -/
def countUp (a : Slot) : List Int64 → Store → List (Except CountFault Int64) × Store
  | [], s => ([], s)
  | delta :: deltas, s =>
    let call := s.increment a delta
    let rest := countUp a deltas call.2
    (call.1 :: rest.1, rest.2)

/-- The numbers that were added: those whose call did not fail. -/
def added (deltas : List Int64) (answers : List (Except CountFault Int64)) : List Int64 :=
  ((deltas.zip answers).filter (·.2.isOk)).map (·.1)

theorem added_cons (delta : Int64) (deltas : List Int64) (answer : Except CountFault Int64)
    (answers : List (Except CountFault Int64)) : added (delta :: deltas) (answer :: answers)
      = if answer.isOk then delta :: added deltas answers else added deltas answers := by
  rw [added, List.zip_cons_cons]
  cases answer <;> rfl

/-- The exact sum of integers of 64 bits. -/
def total : List Int64 → Int
  | [] => 0
  | delta :: deltas => delta.toInt + total deltas

theorem total_cons (delta : Int64) (deltas : List Int64) :
    total (delta :: deltas) = delta.toInt + total deltas :=
  rfl

/-- The order of the numbers makes no difference. -/
theorem total_perm {deltas others : List Int64} (h : deltas.Perm others) : total deltas = total others := by
  induction h with
  | nil => rfl
  | cons delta _ ih => exact congrArg (delta.toInt + ·) ih
  | swap first second deltas => exact Int.add_left_comm second.toInt first.toInt (total deltas)
  | trans _ _ first second => exact first.trans second

variable {deltas : List Int64}

theorem length_countUp (a : Slot) (deltas : List Int64) (s : Store) :
    (countUp a deltas s).1.length = deltas.length := by
  induction deltas generalizing s with
  | nil => rfl
  | cons delta deltas ih => exact congrArg (· + 1) (ih _)

/-- Calls go on from the store that the calls before them leave. -/
theorem countUp_append (a : Slot) (before after : List Int64) (s : Store) :
    countUp a (before ++ after) s = ((countUp a before s).1 ++ (countUp a after (countUp a before s).2).1,
      (countUp a after (countUp a before s).2).2) := by
  induction before generalizing s with
  | nil => rfl
  | cons delta before ih =>
    rw [List.cons_append, countUp, ih]
    rfl

/-- The answer of a call is that of counting up once the store that the calls before it leave. -/
theorem answer_of_call (a : Slot) (before after : List Int64) (delta : Int64) (s : Store) :
    (countUp a (before ++ delta :: after) s).1[before.length]?
      = some ((countUp a before s).2.increment a delta).1 := by
  rw [countUp_append, List.getElem?_append_right (le_of_eq (length_countUp a before s)), length_countUp,
    Nat.sub_self]
  rfl

/-- **A step of the sum.** A call that succeeds moves the slot's integer on, one that fails does not. -/
theorem tally?_increment (held : s.tally? a = some n) (delta : Int64) : (s.increment a delta).2.tally? a
    = some (if (s.increment a delta).1.isOk then n + delta.toInt else n) := by
  by_cases fits : Fits (n + delta.toInt)
  · obtain ⟨i, sum⟩ := exists_of_fits fits
    rw [increment_of_fits held sum, tally?_of_integer ((get?_put s a a _).trans (if_pos rfl)), sum]
    rfl
  · rw [increment_of_not_fits held fits]
    exact held

/-- **The sum of a run.** A slot ends with its integer and the numbers that were added to it. -/
theorem tally?_countUp (held : s.tally? a = some n) (deltas : List Int64) :
    (countUp a deltas s).2.tally? a = some (n + total (added deltas (countUp a deltas s).1)) := by
  induction deltas generalizing s n with
  | nil => exact held.trans (congrArg some (Int.add_zero n).symm)
  | cons delta deltas ih =>
    have step := tally?_increment held delta
    have run := ih step
    rw [countUp]
    dsimp only
    rw [run, added_cons]
    split
    · rw [total_cons, Int.add_assoc]
    · rfl

/-- Where no integer is, all calls fail. -/
theorem countUp_of_other (held : s.tally? a = none) :
    (∀ answer ∈ (countUp a deltas s).1, answer.isOk = false) ∧ (countUp a deltas s).2 = s := by
  obtain ⟨t, value, other⟩ := tally?_eq_none_iff.1 held
  induction deltas with
  | nil => exact ⟨by simp [countUp], rfl⟩
  | cons delta deltas ih =>
    rw [countUp, increment_of_other value other]
    exact ⟨List.forall_mem_cons.2 ⟨rfl, ih.1⟩, ih.2⟩

theorem get?_countUp_other {b : Slot} (other : b ≠ a) (deltas : List Int64) (s : Store) :
    (countUp a deltas s).2.get? b = s.get? b := by
  induction deltas generalizing s with
  | nil => rfl
  | cons delta deltas ih => exact (ih _).trans ((addsExactly s a delta).others b other)

/-- If no call fails, all numbers were added. -/
theorem added_of_all_ok {answers : List (Except CountFault Int64)} (same : answers.length = deltas.length)
    (ok : ∀ answer ∈ answers, answer.isOk = true) : added deltas answers = deltas := by
  rw [added, List.filter_eq_self.2 fun call h => ok _ (List.of_mem_zip h).2]
  exact List.map_fst_zip (le_of_eq same.symm)

/-- After calls of which none fails the slot holds its integer and the sum of all numbers. -/
theorem get?_countUp (ne : deltas ≠ []) (ok : ∀ answer ∈ (countUp a deltas s).1, answer.isOk = true) :
    ∃ (n : Int) (i : Int64), s.tally? a = some n ∧ i.toInt = n + total deltas ∧
      (countUp a deltas s).2.get? a = some (.integer i) := by
  cases held : s.tally? a with
  | none =>
    obtain ⟨delta, deltas, rfl⟩ := List.exists_cons_of_ne_nil ne
    have first : (s.increment a delta).1 ∈ (countUp a (delta :: deltas) s).1 := List.mem_cons_self
    have succeeds := ok _ first
    rw [(countUp_of_other held).1 _ first] at succeeds
    cases succeeds
  | some n =>
    have sum := tally?_countUp held deltas
    rw [added_of_all_ok (length_countUp a deltas s) ok] at sum
    obtain ⟨front, last, rfl⟩ := List.eq_nil_or_concat' deltas |>.resolve_left ne
    -- The last call has stored what the slot counts on from.
    have answer := answer_of_call a front [] last s
    have stored : ∃ i : Int64, (countUp a (front ++ [last]) s).2.get? a = some (.integer i) := by
      cases given : ((countUp a front s).2.increment a last).1 with
      | ok i =>
        rw [countUp_append]
        exact ⟨i, ((addsExactly _ a last).sum i given).2⟩
      | error fault =>
        rw [given] at answer
        have failed := ok _ (List.mem_of_getElem? answer)
        cases failed
    obtain ⟨i, stored⟩ := stored
    rw [tally?_of_integer stored] at sum
    exact ⟨n, i, rfl, Option.some.inj sum, stored⟩

/-- Calls that all succeed leave the same values in whatever order they come. -/
theorem get?_countUp_perm {others : List Int64} (perm : deltas.Perm others)
    (ok : ∀ answer ∈ (countUp a deltas s).1, answer.isOk = true)
    (okOthers : ∀ answer ∈ (countUp a others s).1, answer.isOk = true) :
    (countUp a deltas s).2.get? = (countUp a others s).2.get? := by
  funext b
  by_cases same : b = a
  · subst same
    by_cases empty : deltas = []
    · subst empty
      rw [perm.nil_eq]
    · obtain ⟨n, i, held, sum, stored⟩ := get?_countUp empty ok
      have emptyOthers : others ≠ [] := fun nothing => empty (nothing ▸ perm).eq_nil
      obtain ⟨m, j, again, sumOthers, storedOthers⟩ := get?_countUp emptyOthers okOthers
      obtain rfl := Option.some.inj (held.symm.trans again)
      rw [← total_perm perm, ← sum] at sumOthers
      rw [stored, storedOthers, Int64.toInt_inj.1 sumOthers]
  · rw [get?_countUp_other same, get?_countUp_other same]

/-- **Counters are exact.** Of any calls on one slot, each adds exactly to what the calls before it left. In
the end the slot has its integer, or zero if it was empty, and the exact sum of the numbers that were
added; without an integer in the slot all calls fail. Every other slot is as before, and two orders of the
same calls that succeed throughout leave stores that show the same. -/
theorem counters_exact (s : Store) (a : Slot) (deltas : List Int64) :
    (∀ before delta after, deltas = before ++ delta :: after →
      (countUp a deltas s).1[before.length]? = some ((countUp a before s).2.increment a delta).1 ∧
      (countUp a before s).2.AddsExactly a delta) ∧
    (∀ n, s.tally? a = some n →
      (countUp a deltas s).2.tally? a = some (n + total (added deltas (countUp a deltas s).1))) ∧
    (s.tally? a = none →
      (∀ answer ∈ (countUp a deltas s).1, answer.isOk = false) ∧ (countUp a deltas s).2 = s) ∧
    (∀ b, b ≠ a → (countUp a deltas s).2.get? b = s.get? b) ∧
    ∀ others, deltas.Perm others → (∀ answer ∈ (countUp a deltas s).1, answer.isOk = true) →
      (∀ answer ∈ (countUp a others s).1, answer.isOk = true) →
      (countUp a deltas s).2.Shows (countUp a others s).2.get? := by
  refine ⟨?_, fun n held => tally?_countUp held deltas, countUp_of_other,
    fun b other => get?_countUp_other other deltas s, ?_⟩
  · rintro before delta after rfl
    exact ⟨answer_of_call a before after delta s, addsExactly _ a delta⟩
  · intro others perm ok okOthers
    rw [← get?_countUp_perm perm ok okOthers]
    exact shows_get? _

/-- At the upper limit: one call too many in between is refused, and its number is not added; a slot with a
name in it refuses all; two orders of the calls that succeed leave the same. -/
theorem counters_exact_at_limit : ∃ (hits name : Slot) (s : Store),
    s.tally? hits = some 0 ∧ s.tally? name = none ∧
    (countUp hits [9223372036854775807] s).2.tally? hits = some 9223372036854775807 ∧
    (countUp hits [9223372036854775807, 1, -1] s).1[1]? = some (.error (.overflow hits 1)) ∧
    (countUp hits [9223372036854775807, 1, -1] s).2.tally? hits = some (0 + 9223372036854775806) ∧
    (countUp hits [9223372036854775807, 1, -1] s).2.get? name = s.get? name ∧
    (countUp name [1] s).2 = s ∧
    (countUp hits [9223372036854775807, -1] s).2.Shows
      (countUp hits [-1, 9223372036854775807] s).2.get? := by
  let hits : Slot := ⟨"app", "global", "hits"⟩
  let name : Slot := ⟨"app", "global", "name"⟩
  let s : Store := Store.empty.put ⟨"app", "global", "name"⟩ (.string "a")
  have nothing : s.tally? hits = some 0 := by decide +kernel
  have other : s.tally? name = none := by decide +kernel
  have full : (countUp hits [9223372036854775807] s).2.tally? hits = some 9223372036854775807 := by
    decide +kernel
  have sum : total (added [9223372036854775807, 1, -1]
      (countUp hits [9223372036854775807, 1, -1] s).1) = 9223372036854775806 := by decide +kernel
  obtain ⟨each, sums, -, others, -⟩ := counters_exact s hits [9223372036854775807, 1, -1]
  obtain ⟨answer, exact⟩ := each [9223372036854775807] 1 [-1] rfl
  have refused := (exact.overflow hits 1).2 ⟨rfl, rfl, _, full, by decide⟩
  have orders := (counters_exact s hits [9223372036854775807, -1]).2.2.2.2 [-1, 9223372036854775807]
    (List.Perm.swap _ _ _) (by decide +kernel) (by decide +kernel)
  exact ⟨hits, name, s, nothing, other, full, answer.trans (congrArg some refused),
    sum ▸ sums 0 nothing, others name (by decide), ((counters_exact s name [1]).2.2.1 other).2, orders⟩

end Store

end Conform
