import Conform.Proofs.Attempt
import Conform.Time.Timestamp

/-!
# Instants of texts and counts

What can be read from a text: a date, a time of day, perhaps of a leap second, and an offset in whole minutes.
So a leap second ends a minute in UTC as well. A text that is not read leniently has a year with four digits
and an offset of less than a day, so the instant it names is far from the ends of the years that dates are
kept for.
-/

namespace Conform.Time

open Conform.Text

variable {cs rest : List Char} {n : Nat}

namespace Instant

/-! ## Digits -/

/-- The number that digits write after those of another number. -/
def digitsAfter (n : Nat) (run : List Char) : Nat :=
  run.foldl (fun n c => n * 10 + (c.toNat - '0'.toNat)) n

/-- A run of digits is below the power of ten of its length. -/
theorem digitsAfter_lt {run : List Char} (h : ∀ c ∈ run, isDigit c = true) (n : Nat) :
    digitsAfter n run < (n + 1) * Nat.pow 10 run.length := by
  induction run generalizing n with
  | nil =>
    show n < (n + 1) * 1
    omega
  | cons c cs ih =>
    obtain ⟨digit, rest⟩ := List.forall_mem_cons.1 h
    have bound : c.toNat ≤ '9'.toNat := by
      have both : '0' ≤ c ∧ c ≤ '9' := by simpa [isDigit] using digit
      exact both.2
    have high : '9'.toNat = 57 := rfl
    have low : '0'.toNat = 48 := rfl
    have small : n * 10 + (c.toNat - '0'.toNat) + 1 ≤ (n + 1) * 10 := by omega
    calc digitsAfter n (c :: cs)
        < (n * 10 + (c.toNat - '0'.toNat) + 1) * Nat.pow 10 cs.length := ih rest _
      _ ≤ (n + 1) * 10 * Nat.pow 10 cs.length := Nat.mul_le_mul_right _ small
      _ = (n + 1) * Nat.pow 10 (cs.length + 1) := by
        rw [Nat.mul_assoc, Nat.mul_comm 10]
        rfl

theorem lt_of_digits {count : Nat} (h : digits count cs = .ok (n, rest)) : n < Nat.pow 10 count := by
  unfold digits at h
  dsimp only at h
  split at h
  · rename_i run
    cases h
    have bound := digitsAfter_lt (List.all_eq_true.1 run.2) 0
    rwa [run.1, Nat.zero_add, Nat.one_mul] at bound
  · cases h

theorem lt_of_number {least most : Nat} (h : number least most cs = .ok (n, rest)) :
    n < Nat.pow 10 ((cs.take most).takeWhile isDigit).length := by
  unfold number at h
  split at h
  · cases h
  · dsimp only at h
    split at h
    · cases h
    · cases h
      have run := List.all_eq_true.1 (List.all_takeWhile (p := isDigit) (l := cs.take most))
      have bound := digitsAfter_lt run 0
      rwa [Nat.zero_add, Nat.one_mul] at bound

theorem lt_of_fraction (h : fraction cs = .ok (n, rest)) : n < 1000000000 := by
  obtain ⟨⟨m, tail⟩, hm, scaled⟩ := Attempt.bind_eq_ok.1 h
  cases scaled
  have bound := lt_of_number hm
  generalize hk : ((cs.take 9).takeWhile isDigit).length = k at bound ⊢
  have few : k ≤ 9 := by
    have prefixed := (List.takeWhile_prefix (l := cs.take 9) isDigit).length_le
    rw [List.length_take] at prefixed
    omega
  calc m * Nat.pow 10 (9 - k)
      < Nat.pow 10 k * Nat.pow 10 (9 - k) := Nat.mul_lt_mul_of_pos_right bound (Nat.pow_pos (by omega))
    _ = Nat.pow 10 (k + (9 - k)) := (Nat.pow_add 10 k (9 - k)).symm
    _ = 1000000000 := by rw [Nat.add_sub_cancel' few]

theorem lt_of_optionalFraction (h : optionalFraction cs = .ok (n, rest)) : n < 1000000000 := by
  unfold optionalFraction at h
  split at h
  · exact lt_of_fraction h
  · cases h
    omega

/-! ## Dates and times of day -/

theorem eq_of_calendarDate {d date : Date} (h : calendarDate d = .ok date) :
    d = date ∧ d.isReal = true := by
  unfold calendarDate at h
  split at h
  · rename_i real
    cases h
    exact ⟨rfl, real⟩
  · cases h

/-- A time of day is within the day, and its nanoseconds are those of one second or of a leap second, which
ends a minute. -/
theorem bounds_of_timeOfDay {hour minute second nanos : Nat} {time : Nat × Nat}
    (h : timeOfDay hour minute second nanos = .ok time) (small : nanos < 1000000000) :
    time.1 < 86400 ∧ time.2 < 2000000000 ∧ (1000000000 ≤ time.2 → time.1 % 60 = 59) := by
  unfold timeOfDay at h
  split at h
  · cases h
  · split at h
    · cases h
      dsimp only
      omega
    · cases h
      dsimp only
      omega

theorem daysInMonth_le (year : Int) (month : Nat) : daysInMonth year month ≤ 31 := by
  unfold daysInMonth
  split
  · split <;> omega
  · split <;> omega

/-- A year of four digits is over before the year 10000 begins. -/
theorem dayNumber_lt {date : Date} (year : date.year ≤ 9999) (real : date.isReal = true) :
    date.dayNumber < 2932897 := by
  obtain ⟨⟨⟨first, last⟩, -⟩, day⟩ : ((1 ≤ date.month ∧ date.month ≤ 12) ∧ 1 ≤ date.day) ∧
      date.day ≤ daysInMonth date.year date.month := by
    simpa [Date.isReal] using real
  have days := daysInMonth_le date.year date.month
  unfold Date.dayNumber
  dsimp only
  split <;> omega

/-! ## Offsets -/

/-- An offset is in whole minutes. -/
theorem sixty_dvd_of_offset {separator : List Char → Except TextFault (List Char)} {shift : Int}
    (h : offset separator cs = .ok (shift, rest)) : 60 ∣ shift := by
  unfold offset at h
  split at h
  · cases h
  · split at h
    · cases h
      exact Int.dvd_zero 60
    · split at h
      · simp only [Attempt.bind_eq_ok] at h
        obtain ⟨⟨hours, cs₁⟩, -, cs₂, -, ⟨minutes, cs₃⟩, -, h⟩ := h
        cases h
        dsimp only
        split <;> omega
      · cases h

/-- An offset is one of whole minutes. -/
theorem sixty_dvd_of_looseOffset {shift : Int} (h : looseOffset cs = .ok (shift, rest)) : 60 ∣ shift := by
  unfold looseOffset at h
  split at h
  · cases h
    exact Int.dvd_zero 60
  · exact sixty_dvd_of_offset h

/-! ## Texts -/

/-- An instant of a date, a time of day and an offset, as texts can tell them. -/
structure Told (t : Instant) (date : Date) (time : Nat × Nat) (shift : Int) : Prop where
  real : date.isReal = true
  second : time.1 < 86400
  nanos : time.2 < 2000000000
  leap : 1000000000 ≤ time.2 → time.1 % 60 = 59
  minutes : 60 ∣ shift
  seconds : t.seconds = date.dayNumber * 86400 + (time.1 : Int) - shift
  fraction : t.nanos = time.2
  inRange : Instant.inRange t.seconds = true

/-- An instant as texts tell it that are not lenient: the year has four digits, the offset is less than a day. -/
structure ToldInFull (t : Instant) (date : Date) (time : Nat × Nat) (shift : Int) : Prop extends
    Told t date time shift where
  year : 0 ≤ date.year ∧ date.year ≤ 9999
  offset : -greatestOffset ≤ shift ∧ shift ≤ greatestOffset

/-- What a local time, taken with its offset, tells of its instant. -/
theorem told_of_ofLocal {t : Instant} {date : Date} {time : Nat × Nat} {shift : Int}
    (h : ofLocal date time shift = .ok t) : t.seconds = date.dayNumber * 86400 + (time.1 : Int) - shift ∧
      t.nanos = time.2 ∧ Instant.inRange t.seconds = true := by
  unfold ofLocal at h
  dsimp only at h
  split at h
  · rename_i range
    cases h
    exact ⟨rfl, rfl, range⟩
  · cases h

/-- What the readers of dates, times of day and offsets have in common. -/
theorem told_of_parts {t : Instant} {d date : Date} {hour minute second nanos : Nat} {time : Nat × Nat}
    {shift : Int} (hdate : calendarDate d = .ok date) (small : nanos < 1000000000)
    (htime : timeOfDay hour minute second nanos = .ok time) (minutes : 60 ∣ shift)
    (h : ofLocal date time shift = .ok t) : d = date ∧ Told t date time shift := by
  obtain ⟨rfl, real⟩ := eq_of_calendarDate hdate
  obtain ⟨seconds, fraction, inRange⟩ := told_of_ofLocal h
  obtain ⟨second, nanos, leap⟩ := bounds_of_timeOfDay htime small
  exact ⟨rfl, real, second, nanos, leap, minutes, seconds, fraction, inRange⟩

/-- The inversion of `read`: the date, the time and the offset that were told. -/
theorem exists_told {t : Instant} (h : read cs = .ok t) :
    ∃ date time shift, ToldInFull t date time shift := by
  unfold read at h
  rw [Attempt.check_eq_ok] at h
  obtain ⟨-, h⟩ := h
  simp only [Attempt.bind_eq_ok, Attempt.check_eq_ok] at h
  obtain ⟨⟨year, cs₁⟩, hyear, cs₂, -, ⟨month, cs₃⟩, -, cs₄, -, ⟨day, cs₅⟩, -, date, hdate, cs₆, -,
    ⟨hour, cs₇⟩, -, cs₈, -, ⟨minute, cs₉⟩, -, cs₁₀, -, ⟨second, cs₁₁⟩, -, ⟨nanos, cs₁₂⟩, hnanos, time, htime,
    ⟨shift, cs₁₃⟩, hshift, bounds, -, h⟩ := h
  obtain ⟨rfl, told⟩ := told_of_parts hdate (lt_of_optionalFraction hnanos) htime (sixty_dvd_of_offset hshift) h
  have digits : year < 10000 := lt_of_digits hyear
  dsimp only at bounds
  refine ⟨⟨year, month, day⟩, time, shift, told, ⟨?_, ?_⟩, ⟨?_, ?_⟩⟩
  · exact Int.natCast_nonneg year
  · show (year : Int) ≤ 9999
    omega
  · omega
  · omega

theorem exists_told_of_readLoose {t : Instant} (h : readLoose cs = .ok t) :
    ∃ date time shift, Told t date time shift := by
  unfold readLoose at h
  simp only [Attempt.bind_eq_ok, Attempt.check_eq_ok] at h
  obtain ⟨⟨year, cs₁⟩, -, cs₂, -, ⟨month, cs₃⟩, -, cs₄, -, ⟨day, cs₅⟩, -, cs₆, -, ⟨hour, cs₇⟩, -, cs₈, -,
    ⟨minute, cs₉⟩, -, cs₁₀, -, ⟨second, cs₁₁⟩, -, ⟨nanos, cs₁₂⟩, hnanos, ⟨shift, cs₁₃⟩, hshift, -, date, hdate,
    time, htime, -, h⟩ := h
  exact ⟨date, time, shift,
    (told_of_parts hdate (lt_of_optionalFraction hnanos) htime (sixty_dvd_of_looseOffset hshift) h).2⟩

/-- Before the last second that dates are kept for. -/
theorem ToldInFull.before_last {t : Instant} {date : Date} {time : Nat × Nat} {shift : Int}
    (h : ToldInFull t date time shift) : t.seconds < lastSecond := by
  have days := dayNumber_lt h.year.2 h.real
  have second := h.second
  have offset := h.offset.1
  rw [h.seconds]
  unfold greatestOffset at offset
  unfold lastSecond
  omega

/-! ## Instants that have a date and a time -/

theorem inRange_iff {seconds : Int} :
    inRange seconds = true ↔ firstSecond ≤ seconds ∧ seconds ≤ lastSecond := by
  simp [inRange]

/-- An instant of the years that dates are kept for, in a second or in a leap second that ends a minute. -/
structure Proper (t : Instant) : Prop where
  range : inRange t.seconds = true
  nanos : t.nanos < 2000000000
  leap : 1000000000 ≤ t.nanos → t.seconds % 60 = 59

/-- An instant that was told is proper: in range, and with nanoseconds of a second or a leap second. -/
theorem Told.proper {t : Instant} {date : Date} {time : Nat × Nat} {shift : Int}
    (h : Told t date time shift) : t.Proper := by
  refine ⟨h.inRange, h.fraction ▸ h.nanos, fun late => ?_⟩
  have minute := h.leap (h.fraction ▸ late)
  have minutes := h.minutes
  rw [h.seconds]
  omega

theorem proper_of_readLoose {t : Instant} (h : readLoose cs = .ok t) : t.Proper := by
  obtain ⟨date, time, shift, told⟩ := exists_told_of_readLoose h
  exact told.proper

theorem proper_of_read {t : Instant} (h : read cs = .ok t) : t.Proper := by
  obtain ⟨date, time, shift, told⟩ := exists_told h
  exact told.proper

/-! ## Instants that are kept -/

/-- An instant that dates are kept for, with nanoseconds that a second can have. -/
structure Kept (t : Instant) : Prop where
  range : t.isKept = true
  nanos : t.nanos < 2000000000

/-- Fewer nanoseconds do not lead out of range. -/
theorem Kept.of_le {t : Instant} (h : t.Kept) {nanos : Nat} (le : nanos ≤ t.nanos) :
    Kept ⟨t.seconds, nanos⟩ := by
  obtain ⟨range, last⟩ : inRange t.seconds = true ∧ (t.seconds < lastSecond ∨ t.nanos < 1000000000) := by
    simpa [isKept] using h.range
  refine ⟨?_, Nat.lt_of_le_of_lt le h.nanos⟩
  simp only [isKept, range, Bool.true_and, Bool.or_eq_true, decide_eq_true_eq]
  omega

theorem Kept.withNanos {t : Instant} {nanos : Nat} (h : Kept ⟨t.seconds, nanos⟩) :
    t.withNanos? nanos = some ⟨t.seconds, nanos⟩ :=
  if_pos ⟨h.nanos, h.range⟩

/-- An instant that was read survives `withNanos?`. -/
theorem kept_of_read {t : Instant} (h : read cs = .ok t) : t.Kept := by
  obtain ⟨date, time, shift, told⟩ := exists_told h
  have before := told.before_last
  refine ⟨?_, told.fraction ▸ told.nanos⟩
  simp [isKept, told.inRange, before]

/-! ## The order of instants -/

theorem compare_eq_lt_iff {a b : Instant} : compare a b = .lt ↔
    a.seconds < b.seconds ∨ a.seconds = b.seconds ∧ a.nanos < b.nanos := by
  show (compare a.seconds b.seconds).then (compare a.nanos b.nanos) = .lt ↔ _
  simp [Ordering.then_eq_lt, Int.compare_eq_lt, Nat.compare_eq_lt]

theorem isLE_compare_iff {a b : Instant} : (compare a b).isLE = true ↔
    a.seconds < b.seconds ∨ a.seconds = b.seconds ∧ a.nanos ≤ b.nanos := by
  show ((compare a.seconds b.seconds).then (compare a.nanos b.nanos)).isLE = true ↔ _
  simp [Ordering.isLE_then_iff_or, Int.compare_eq_lt, Nat.isLE_compare]

end Instant

end Conform.Time
