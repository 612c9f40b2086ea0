import Conform.Proofs.Time.Obtained

/-!
# Epochs

The count of a timestamp's units since the start of 1970, against the order of instants and against the
timestamp that the count gives. The exact count of nanoseconds needs more than 64 bits in most years; those
of years before 1678 are given as the greatest of 64 bits, as those after 2262 are. The units of a leap second
are counted on from its second, so they run as far as the next second does.
-/

namespace Conform.Time.Timestamp

open Conform.Text

variable {p : Precision} {a b t : Timestamp}

/-! ## Counts without a limit -/

/-- The count of units since the start of 1970, however great. -/
def count (t : Timestamp) : Int :=
  t.instant.seconds * t.precision.perSecond + (t.instant.nanos / t.precision.nanos : Nat)

/-- Nanoseconds before 1677-09-21T00:12:43.145224192Z: 64 bits do not reach back to them. -/
def TooEarly (t : Timestamp) : Prop :=
  t.precision = .nanosecond ∧ t.count < leastInt64

/-- Nanoseconds from 2262-04-11T23:47:16.854775807Z on: the last that 64 bits reach, and all after it. -/
def TooLate (t : Timestamp) : Prop :=
  t.precision = .nanosecond ∧ greatestInt64 ≤ t.count

/-- An instant in a leap second, further into it than the other is into the second that comes next. -/
def RunsPast (a b : Timestamp) : Prop :=
  a.precision ≠ .second ∧ b.instant.seconds = a.instant.seconds + 1 ∧
    b.instant.nanos + 1000000000 < a.instant.nanos

/-- Whole seconds are counted as such, other units exactly, unless there are too many. -/
theorem epoch_cases (t : Timestamp) :
    t.precision = .second ∧ t.epoch = t.instant.seconds ∨
    t.precision ≠ .second ∧ ¬t.TooEarly ∧ ¬t.TooLate ∧ t.epoch = t.count ∨
    (t.TooEarly ∨ t.TooLate) ∧ t.epoch = greatestInt64 := by
  obtain ⟨i, p⟩ := t
  cases p with
  | second => exact .inl ⟨rfl, rfl⟩
  | millisecond => exact .inr (.inl ⟨by simp, by simp [TooEarly], by simp [TooLate], rfl⟩)
  | microsecond => exact .inr (.inl ⟨by simp, by simp [TooEarly], by simp [TooLate], rfl⟩)
  | nanosecond =>
    let t : Timestamp := ⟨i, .nanosecond⟩
    have limited : t.epoch =
      if leastInt64 ≤ t.count ∧ t.count ≤ greatestInt64 then t.count else greatestInt64 := rfl
    by_cases early : t.count < leastInt64
    · refine .inr (.inr ⟨.inl ⟨rfl, early⟩, ?_⟩)
      rw [limited, if_neg (by omega)]
    · by_cases late : greatestInt64 ≤ t.count
      · refine .inr (.inr ⟨.inr ⟨rfl, late⟩, ?_⟩)
        rw [limited]
        split <;> omega
      · refine .inr (.inl ⟨by simp, fun h => early h.2, fun h => late h.2, ?_⟩)
        rw [limited, if_pos (by omega)]

/-! ## The order of instants -/

/-- Exact counts are in the order of instants, but for the end of a leap second. -/
theorem count_le_iff (ha : Whole p a) (hb : Whole p b) (second : p ≠ .second)
    (le : (compare a.instant b.instant).isLE = true) : a.count ≤ b.count ↔ ¬a.RunsPast b := by
  obtain ⟨j, hj⟩ := ha.units
  obtain ⟨k, hk⟩ := hb.units
  have most := ha.proper.nanos
  have countA : a.count = a.instant.seconds * p.perSecond + j := by
    rw [count, ha.precision, hj, Nat.mul_div_cancel_left _ p.nanos_pos]
  have countB : b.count = b.instant.seconds * p.perSecond + k := by
    rw [count, hb.precision, hk, Nat.mul_div_cancel_left _ p.nanos_pos]
  have past : a.RunsPast b ↔ b.instant.seconds = a.instant.seconds + 1 ∧
      b.instant.nanos + 1000000000 < a.instant.nanos := by
    rw [RunsPast, ha.precision, and_iff_right second]
  rw [Instant.isLE_compare_iff] at le
  rw [countA, countB, past]
  cases p with
  | second => exact absurd rfl second
  | millisecond | microsecond | nanosecond =>
    simp only [Precision.perSecond, Precision.nanos] at *
    omega

theorem epoch_of_second (h : t.precision = .second) : t.epoch = t.instant.seconds := by
  unfold epoch
  rw [h]

/-- No count of nanoseconds is given as more than the greatest of 64 bits. -/
theorem epoch_le_greatest (h : t.precision = .nanosecond) : t.epoch ≤ greatestInt64 := by
  rcases epoch_cases t with ⟨second, -⟩ | ⟨-, -, late, exact⟩ | ⟨-, greatest⟩
  · rw [h] at second
    cases second
  · have below : ¬greatestInt64 ≤ t.count := fun reached => late ⟨h, reached⟩
    omega
  · omega

/-- Only nanoseconds can leave 64 bits: no coarser unit reaches so far within the years that are
represented. -/
theorem nanosecond_of_limited (h : t.TooEarly ∨ t.TooLate) : t.precision = .nanosecond :=
  h.elim And.left And.left

/-- **When epochs are in the order of their instants.** The later epoch is not less unless 64 bits hold it
and either the earlier instant has too many nanoseconds before 1970, so that its epoch is the greatest of
64 bits, or the earlier instant is in a leap second and runs past the later one. -/
theorem epoch_le_iff (ha : Obtained p a) (hb : Obtained p b)
    (le : (compare a.instant b.instant).isLE = true) :
    a.epoch ≤ b.epoch ↔ b.TooEarly ∨ b.TooLate ∨ ¬a.TooEarly ∧ ¬a.RunsPast b := by
  have precisionA := ha.whole.precision
  have precisionB := hb.whole.precision
  rcases epoch_cases b with ⟨second, -⟩ | ⟨second, earlyB, lateB, exactB⟩ | ⟨limited, greatest⟩
  · -- Whole seconds do not count nanoseconds, so a leap second makes no difference.
    have secondA : a.precision = .second := by rw [precisionA, ← precisionB, second]
    have early : ¬a.TooEarly := by simp [TooEarly, secondA]
    have past : ¬a.RunsPast b := by simp [RunsPast, secondA]
    have ordered : a.instant.seconds ≤ b.instant.seconds := by
      rw [Instant.isLE_compare_iff] at le
      omega
    rw [epoch_of_second secondA, epoch_of_second second]
    simp only [ordered, early, past, not_false_eq_true, and_self, or_true]
  · rw [precisionB] at second
    have counts := count_le_iff ha.whole hb.whole second le
    simp only [earlyB, lateB, false_or]
    rcases epoch_cases a with ⟨secondA, -⟩ | ⟨-, earlyA, -, exactA⟩ | ⟨limitedA, greatestA⟩
    · exact absurd (precisionA ▸ secondA) second
    · rw [exactA, exactB, counts]
      simp only [earlyA, not_false_eq_true, true_and]
    · -- The later count is in 64 bits and not the greatest, which the earlier epoch is.
      have nanosecond : b.precision = .nanosecond := by
        rw [precisionB, ← precisionA, nanosecond_of_limited limitedA]
      have below : ¬greatestInt64 ≤ b.count := fun reached => lateB ⟨nanosecond, reached⟩
      rw [exactB, greatestA]
      refine iff_of_false below fun both => ?_
      have late : greatestInt64 ≤ a.count := (limitedA.resolve_left both.1).2
      have ordered : a.count ≤ b.count := counts.2 both.2
      omega
  · have nanosecond : a.precision = .nanosecond := by
      rw [precisionA, ← precisionB, nanosecond_of_limited limited]
    rw [greatest]
    exact iff_of_true (epoch_le_greatest nanosecond) (limited.elim .inl (.inr ∘ .inl))

/-- Half a leap second counts further than the start of the year after it. -/
theorem epoch_le_iff_after_leap_second : ∃ leap next : Timestamp,
    ofText .millisecond "2016-12-31T23:59:60.5Z" = .ok leap ∧
    ofText .millisecond "2017-01-01T00:00:00Z" = .ok next ∧ leap.RunsPast next ∧
    (leap.epoch ≤ next.epoch ↔
      next.TooEarly ∨ next.TooLate ∨ ¬leap.TooEarly ∧ ¬leap.RunsPast next) := by
  have leap : ofText .millisecond "2016-12-31T23:59:60.5Z"
      = .ok ⟨⟨1483228799, 1500000000⟩, .millisecond⟩ :=
    ofText_eq_ok_iff.2 ⟨⟨1483228799, 1500000000⟩, by rfl, by decide⟩
  have next : ofText .millisecond "2017-01-01T00:00:00Z" = .ok ⟨⟨1483228800, 0⟩, .millisecond⟩ := by rfl
  exact ⟨_, _, leap, next, ⟨by decide, by decide, by decide⟩,
    epoch_le_iff (.ofText _ leap) (.ofText _ next) (by decide)⟩

/-- The year 1600 is given as the greatest count of nanoseconds, so it is not before the year 2000. -/
theorem epoch_of_1600_greater : ∃ a b : Timestamp,
    ofText .nanosecond "1600-01-01T00:00:00Z" = .ok a ∧ ofText .nanosecond "2000-01-01T00:00:00Z" = .ok b ∧
    (compare a.instant b.instant).isLE = true ∧ a.epoch = greatestInt64 ∧ b.epoch = 946684800000000000 ∧
    ¬a.epoch ≤ b.epoch :=
  ⟨⟨⟨-11676096000, 0⟩, .nanosecond⟩, ⟨⟨946684800, 0⟩, .nanosecond⟩, by rfl, by rfl, by decide, by decide,
    by decide, by decide⟩

/-! ## Timestamps of epochs -/

/-- In a leap second. No count of units is. -/
def Leap (t : Timestamp) : Prop :=
  1000000000 ≤ t.instant.nanos

instance (t : Timestamp) : Decidable t.Leap :=
  inferInstanceAs (Decidable (_ ≤ _))

/-- The timestamp whose count a timestamp's epoch is. In a leap second this is the start of the second before
it, if whole seconds are counted, and else the same part of the second after it. -/
def counted (t : Timestamp) : Timestamp :=
  if t.Leap then
    match t.precision with
    | .second => ⟨⟨t.instant.seconds, 0⟩, .second⟩
    | p => ⟨⟨t.instant.seconds + 1, t.instant.nanos - 1000000000⟩, p⟩
  else t

/-- What a timestamp is counted as: itself, a leap second in seconds cut to its second, or a finer
one carried into the second that follows. -/
theorem counted_cases (t : Timestamp) :
    ¬t.Leap ∧ t.counted = t ∨
    t.Leap ∧ t.precision = .second ∧ t.counted = ⟨⟨t.instant.seconds, 0⟩, .second⟩ ∨
    t.Leap ∧ t.precision ≠ .second ∧
      t.counted = ⟨⟨t.instant.seconds + 1, t.instant.nanos - 1000000000⟩, t.precision⟩ := by
  obtain ⟨i, p⟩ := t
  by_cases leap : Leap ⟨i, p⟩
  · cases p with
    | second => exact .inr (.inl ⟨leap, rfl, if_pos leap⟩)
    | _ => exact .inr (.inr ⟨leap, by simp, if_pos leap⟩)
  · exact .inl ⟨leap, if_neg leap⟩

theorem not_leap_counted (h : Whole p t) : ¬t.counted.Leap := by
  have nanos := h.proper.nanos
  rcases counted_cases t with ⟨leap, same⟩ | ⟨-, -, moved⟩ | ⟨-, -, moved⟩
  · rwa [same]
  · rw [moved]
    simp [Leap]
  · rw [moved]
    unfold Leap
    dsimp only
    omega

/-- The timestamp of the epoch is another one exactly in a leap second. -/
theorem counted_eq_iff (h : Whole p t) : t.counted = t ↔ ¬t.Leap :=
  ⟨fun same => same ▸ not_leap_counted h, fun leap => if_neg leap⟩

/-- The second after a leap second is one that dates are kept for, unless it is the very last. -/
theorem whole_counted (h : Whole p t) (before : t.instant.seconds < Instant.lastSecond) :
    Whole p t.counted := by
  have nanos := h.proper.nanos
  rcases counted_cases t with ⟨-, same⟩ | ⟨-, second, moved⟩ | ⟨-, -, moved⟩
  · rwa [same]
  · rw [moved]
    exact ⟨second ▸ h.precision, ⟨h.proper.range, by simp, by simp⟩, Nat.dvd_zero _⟩
  · have range := Instant.inRange_iff.1 h.proper.range
    have next : Instant.inRange (t.instant.seconds + 1) = true :=
      Instant.inRange_iff.2 ⟨Int.le_add_one range.1, Int.add_one_le_of_lt before⟩
    rw [moved]
    refine ⟨h.precision, ⟨next, ?_, ?_⟩, Nat.dvd_sub h.units p.nanos_dvd_second⟩
    · dsimp only
      omega
    · dsimp only
      omega

/-- Between seconds and nanoseconds the count fits and is exact. -/
theorem epoch_of_coarse (second : t.precision ≠ .second) (coarse : t.precision ≠ .nanosecond) :
    t.epoch = t.count := by
  rcases epoch_cases t with ⟨whole, -⟩ | ⟨-, -, -, exact⟩ | ⟨limited, -⟩
  · exact absurd whole second
  · exact exact
  · exact absurd (nanosecond_of_limited limited) coarse

/-- Away from nanoseconds the count is that of the instant it is counted as. -/
theorem epoch_eq_count_counted (h : Whole p t) (coarse : p ≠ .nanosecond) :
    t.epoch = t.counted.count := by
  rcases counted_cases t with ⟨leap, same⟩ | ⟨-, second, moved⟩ | ⟨leap, second, moved⟩
  · rw [same]
    by_cases second : t.precision = .second
    · rw [epoch_of_second second, count, second]
      unfold Leap at leap
      simp only [Precision.perSecond, Precision.nanos]
      omega
    · exact epoch_of_coarse second (h.precision ▸ coarse)
  · rw [moved, epoch_of_second second]
    simp [count, Precision.perSecond]
  · -- The thousand million nanoseconds of the leap second are those of the second it is counted to.
    obtain ⟨k, hk⟩ := h.units
    rw [moved, epoch_of_coarse second (h.precision ▸ coarse), count, count, h.precision]
    rw [h.precision] at second
    unfold Leap at leap
    cases p with
    | second => exact absurd rfl second
    | millisecond | microsecond | nanosecond =>
      simp only [Precision.perSecond, Precision.nanos] at *
      omega

/-- Out of leap seconds, whole seconds and units make a count that is taken apart into them. -/
theorem instantOfCount_count (h : Whole p t) (leap : ¬t.Leap) :
    instantOfCount? p t.count = some t.instant := by
  obtain ⟨⟨s, m⟩, q⟩ := t
  obtain rfl : q = p := h.precision
  obtain ⟨k, rfl⟩ : q.nanos ∣ m := h.units
  have range : Instant.inRange s = true := h.proper.range
  have early : q.nanos * k < 1000000000 := Nat.lt_of_not_le leap
  have units : k < q.perSecond := by
    rw [← q.perSecond_mul_nanos, Nat.mul_comm] at early
    exact Nat.lt_of_mul_lt_mul_right early
  have total : count ⟨⟨s, q.nanos * k⟩, q⟩ = s * q.perSecond + k := by
    rw [count, Nat.mul_div_cancel_left _ q.nanos_pos]
  have seconds : (s * q.perSecond + k) / q.perSecond = s := by
    cases q <;> simp only [Precision.perSecond] at * <;> omega
  have rest : ((s * q.perSecond + k) % q.perSecond).toNat = k := by
    cases q <;> simp only [Precision.perSecond] at * <;> omega
  rw [total, instantOfCount?]
  dsimp only
  rw [seconds, rest, if_pos range, Nat.mul_comm]

/-- Such a count has 64 bits, unless it is one of nanoseconds. -/
theorem exists_ofCount_count (h : Whole p t) (coarse : p ≠ .nanosecond) (leap : ¬t.Leap) :
    ∃ n : Int64, n.toInt = t.count ∧ ofCount p n = .ok t := by
  have range := Instant.inRange_iff.1 h.proper.range
  have nanos := h.proper.nanos
  rw [Instant.firstSecond, Instant.lastSecond] at range
  have fits : leastInt64 ≤ t.count ∧ t.count ≤ greatestInt64 := by
    rw [count, h.precision, leastInt64, greatestInt64]
    cases p with
    | nanosecond => exact absurd rfl coarse
    | second | millisecond | microsecond =>
      simp only [Precision.perSecond, Precision.nanos] at *
      omega
  have same : (Int64.ofInt t.count).toInt = t.count := toInt64?_eq_some_iff.1 (if_pos fits)
  refine ⟨Int64.ofInt t.count, same, ofCount_eq_ok_iff.2 ⟨?_, h.precision⟩⟩
  rw [same, instantOfCount_count h leap]

/-- **The epoch of a text's timestamp gives it back, unless it is in a leap second.** In whole seconds, a leap
second gives the second before it; in milliseconds and microseconds, the same part of the second after it. -/
theorem ofCount_epoch {s : String} (coarse : p ≠ .nanosecond) (h : ofText p s = .ok t) :
    ∃ n : Int64, n.toInt = t.epoch ∧ ofCount p n = .ok t.counted ∧ (t.counted = t ↔ ¬t.Leap) := by
  have whole := whole_of_ofText h
  have before : t.instant.seconds < Instant.lastSecond := by
    obtain ⟨i, read, rfl⟩ := ofText_eq_ok_iff.1 h
    obtain ⟨date, time, shift, told⟩ := Instant.exists_told read
    exact told.before_last
  obtain ⟨n, count, found⟩ :=
    exists_ofCount_count (whole_counted whole before) coarse (not_leap_counted whole)
  exact ⟨n, count.trans (epoch_eq_count_counted whole coarse).symm, found, counted_eq_iff whole⟩

/-- The leap second that ended 2016, in milliseconds. -/
theorem ofCount_epoch_of_leap_second : ∃ leap next : Timestamp, ∃ n : Int64,
    ofText .millisecond "2016-12-31T23:59:60.25Z" = .ok leap ∧
    ofText .millisecond "2017-01-01T00:00:00.25Z" = .ok next ∧
    n.toInt = leap.epoch ∧ ofCount .millisecond n = .ok next ∧ (next = leap ↔ ¬leap.Leap) := by
  have leap : ofText .millisecond "2016-12-31T23:59:60.25Z"
      = .ok ⟨⟨1483228799, 1250000000⟩, .millisecond⟩ :=
    ofText_eq_ok_iff.2 ⟨⟨1483228799, 1250000000⟩, by rfl, by decide⟩
  have next : ofText .millisecond "2017-01-01T00:00:00.25Z"
      = .ok ⟨⟨1483228800, 250000000⟩, .millisecond⟩ :=
    ofText_eq_ok_iff.2 ⟨⟨1483228800, 250000000⟩, by rfl, by decide⟩
  have moved : counted ⟨⟨1483228799, 1250000000⟩, .millisecond⟩
      = ⟨⟨1483228800, 250000000⟩, .millisecond⟩ := by decide
  obtain ⟨n, epoch, given, same⟩ := ofCount_epoch (by decide) leap
  rw [moved] at given same
  exact ⟨_, _, n, leap, next, epoch, given, same⟩

/-- In whole seconds, a leap second has the epoch of the second before it, and that second is what the epoch
gives. -/
theorem epoch_of_leap_second_in_seconds : ∃ leap last : Timestamp,
    ofText .second "2016-12-31T23:59:60Z" = .ok leap ∧ ofText .second "2016-12-31T23:59:59Z" = .ok last ∧
    leap.epoch = 1483228799 ∧ ofCount .second 1483228799 = .ok last ∧ last ≠ leap :=
  ⟨⟨⟨1483228799, 1000000000⟩, .second⟩, ⟨⟨1483228799, 0⟩, .second⟩,
    ofText_eq_ok_iff.2 ⟨⟨1483228799, 1000000000⟩, by rfl, by decide⟩, by rfl, by decide,
    ofCount_eq_ok_iff.2 ⟨by decide +kernel, rfl⟩, by decide⟩

end Conform.Time.Timestamp
