import Conform.Proofs.Time.Instant

/-!
# Truncation and counts

Truncating an instant to a precision keeps its seconds and leaves of its nanoseconds whole units. What is
left determines what is left at a coarser precision, and the order of instants is kept. A count of units is
the count of the timestamp it gives: nothing is cut off its instant, before 1970 as after it.

`truncate_eq` says what `truncate` comes to, so the rest is about `wholeUnits`.
-/

namespace Conform.Time

/-! ## Whole units -/

namespace Precision

variable {p q : Precision} {n m : Nat}

theorem nanos_pos (p : Precision) : 0 < p.nanos := by
  cases p <;> decide

theorem perSecond_mul_nanos (p : Precision) : p.perSecond * p.nanos = 1000000000 := by
  cases p <;> rfl

theorem nanos_dvd_second (p : Precision) : p.nanos ∣ 1000000000 :=
  ⟨p.perSecond, by rw [Nat.mul_comm, p.perSecond_mul_nanos]⟩

/-- A unit of a coarser precision is made of units of a finer one. -/
theorem nanos_dvd (h : q.nanos ≤ p.nanos) : q.nanos ∣ p.nanos := by
  cases p <;> cases q <;> revert h <;> decide

/-- The nanoseconds of whole units. -/
def wholeUnits (p : Precision) (n : Nat) : Nat :=
  n - n % p.nanos

theorem wholeUnits_le (p : Precision) (n : Nat) : p.wholeUnits n ≤ n :=
  Nat.sub_le n _

theorem dvd_wholeUnits (p : Precision) (n : Nat) : p.nanos ∣ p.wholeUnits n :=
  Nat.dvd_sub_mod n

theorem lt_wholeUnits_add (p : Precision) (n : Nat) : n < p.wholeUnits n + p.nanos := by
  have rest := Nat.mod_lt n p.nanos_pos
  have less := Nat.mod_le n p.nanos
  unfold wholeUnits
  omega

theorem wholeUnits_of_dvd (h : p.nanos ∣ n) : p.wholeUnits n = n := by
  rw [wholeUnits, Nat.mod_eq_zero_of_dvd h, Nat.sub_zero]

/-- There are no whole units between those that are left and what there was. -/
theorem le_wholeUnits (h : p.nanos ∣ m) (le : m ≤ n) : m ≤ p.wholeUnits n := by
  obtain ⟨k, rfl⟩ := h
  have count : k ≤ n / p.nanos := (Nat.le_div_iff_mul_le p.nanos_pos).2 (Nat.mul_comm k _ ▸ le)
  calc p.nanos * k
      ≤ p.nanos * (n / p.nanos) := Nat.mul_le_mul_left _ count
    _ = n - n % p.nanos := Nat.eq_sub_of_add_eq (Nat.div_add_mod n p.nanos)

theorem wholeUnits_mono (le : m ≤ n) : p.wholeUnits m ≤ p.wholeUnits n :=
  le_wholeUnits (dvd_wholeUnits p m) (Nat.le_trans (wholeUnits_le p m) le)

/-- Cutting to a finer unit first does not matter. -/
theorem wholeUnits_wholeUnits (h : q.nanos ≤ p.nanos) (n : Nat) :
    p.wholeUnits (q.wholeUnits n) = p.wholeUnits n := by
  have finer : q.nanos ∣ p.wholeUnits n := Nat.dvd_trans (nanos_dvd h) (dvd_wholeUnits p n)
  apply Nat.le_antisymm
  · exact wholeUnits_mono (wholeUnits_le q n)
  · exact le_wholeUnits (dvd_wholeUnits p n) (le_wholeUnits finer (wholeUnits_le p n))

end Precision

namespace Timestamp

variable {p q : Precision} {i j : Instant} {n m : Int}

/-! ## Truncation -/

/-- New nanoseconds are found, so an instant is never left as it is for want of them. -/
theorem withNanos_wholeUnits (h : i.Kept) (p : Precision) :
    i.withNanos? (i.nanos - i.nanos % p.nanos) = some ⟨i.seconds, p.wholeUnits i.nanos⟩ :=
  (h.of_le (p.wholeUnits_le i.nanos)).withNanos

/-- The fallback of `truncate` is never taken: an instant that is kept keeps its seconds, and its
nanoseconds are cut to whole units. -/
theorem truncate_eq (h : i.Kept) (p : Precision) :
    truncate p i = ⟨i.seconds, p.wholeUnits i.nanos⟩ := by
  rw [truncate, withNanos_wholeUnits h, Option.getD_some]

theorem kept_truncate (h : i.Kept) (p : Precision) : (truncate p i).Kept := by
  rw [truncate_eq h]
  exact h.of_le (p.wholeUnits_le i.nanos)

/-- Truncating to a finer unit first does not matter. -/
theorem truncate_truncate (h : i.Kept) (finer : q.nanos ≤ p.nanos) :
    truncate p (truncate q i) = truncate p i := by
  rw [truncate_eq (kept_truncate h q), truncate_eq h, truncate_eq h, Precision.wholeUnits_wholeUnits finer]

/-- Truncation keeps instants in order. -/
theorem truncate_mono (hi : i.Kept) (hj : j.Kept) (le : (compare i j).isLE = true) :
    (compare (truncate p i) (truncate p j)).isLE = true := by
  rw [Instant.isLE_compare_iff] at le
  rw [truncate_eq hi, truncate_eq hj, Instant.isLE_compare_iff]
  rcases le with before | ⟨same, nanos⟩
  · exact .inl before
  · exact .inr ⟨same, Precision.wholeUnits_mono nanos⟩

/-! ## Counts -/

/-- A count in whole seconds and units on top of them. -/
theorem instantOfCount_eq (h : instantOfCount? p n = some i) :
    i = ⟨n / p.perSecond, (n % p.perSecond).toNat * p.nanos⟩ ∧
      Instant.inRange (n / p.perSecond) = true := by
  unfold instantOfCount? at h
  dsimp only at h
  split at h
  · rename_i range
    exact ⟨(Option.some.inj h).symm, range⟩
  · cases h

theorem nanos_of_count (h : instantOfCount? p n = some i) : i.nanos < 1000000000 := by
  obtain ⟨rfl, -⟩ := instantOfCount_eq h
  have units : (n % p.perSecond).toNat < p.perSecond := by
    cases p <;> simp only [Precision.perSecond] <;> omega
  rw [← p.perSecond_mul_nanos]
  exact Nat.mul_lt_mul_of_pos_right units p.nanos_pos

theorem kept_of_count (h : instantOfCount? p n = some i) : i.Kept := by
  have nanos := nanos_of_count h
  obtain ⟨rfl, range⟩ := instantOfCount_eq h
  refine ⟨?_, by omega⟩
  simp only [Instant.isKept, range, nanos, decide_true, Bool.or_true, Bool.and_true]

theorem truncate_of_count (h : instantOfCount? p n = some i) : truncate p i = i := by
  rw [truncate_eq (kept_of_count h)]
  obtain ⟨rfl, -⟩ := instantOfCount_eq h
  rw [Precision.wholeUnits_of_dvd (Nat.dvd_mul_left _ _)]

/-- Whole seconds and units add up to the count. -/
theorem units_of_count (h : instantOfCount? p n = some i) :
    i.seconds * p.perSecond + (i.nanos / p.nanos : Nat) = n := by
  obtain ⟨rfl, -⟩ := instantOfCount_eq h
  rw [Nat.mul_div_cancel _ p.nanos_pos]
  cases p <;> simp only [Precision.perSecond] <;> omega

/-- Smaller counts are earlier instants. -/
theorem before_of_counts (hi : instantOfCount? p n = some i) (hj : instantOfCount? p m = some j)
    (less : n < m) : compare i j = .lt := by
  obtain ⟨rfl, -⟩ := instantOfCount_eq hi
  obtain ⟨rfl, -⟩ := instantOfCount_eq hj
  rw [Instant.compare_eq_lt_iff]
  cases p <;> simp only [Precision.perSecond, Precision.nanos] <;> omega

variable {c d : Int64} {t u : Timestamp}

/-- A timestamp of a count has the instant of the count, from which truncation cuts nothing off. -/
theorem ofCount_eq_ok_iff :
    ofCount p c = .ok t ↔ instantOfCount? p c.toInt = some t.instant ∧ t.precision = p := by
  unfold ofCount
  constructor
  · intro h
    split at h
    · rename_i i found
      cases h
      rw [truncate_of_count found]
      exact ⟨found, rfl⟩
    · cases h
  · rintro ⟨found, rfl⟩
    rw [found]
    dsimp only
    rw [truncate_of_count found]

/-- The count is given back. In nanoseconds it fits into 64 bits, for it did before. -/
theorem epoch_of_ofCount (h : ofCount p c = .ok t) : t.epoch = c.toInt := by
  obtain ⟨found, precision⟩ := ofCount_eq_ok_iff.1 h
  have units := units_of_count found
  have least := Int64.le_toInt c
  have most := Int64.toInt_lt c
  unfold epoch
  rw [precision]
  dsimp only
  rw [units]
  cases p with
  | second =>
    obtain ⟨same, -⟩ := instantOfCount_eq found
    rw [same]
    exact Int.ediv_one _
  | millisecond => rfl
  | microsecond => rfl
  | nanosecond =>
    apply if_pos
    unfold leastInt64 greatestInt64
    omega

theorem before_of_ofCounts (ht : ofCount p c = .ok t) (hu : ofCount p d = .ok u) (less : c < d) :
    compare t u = .lt := by
  have before := before_of_counts (ofCount_eq_ok_iff.1 ht).1 (ofCount_eq_ok_iff.1 hu).1
    (Int64.lt_iff_toInt_lt.1 less)
  show (compare t.instant u.instant).then _ = .lt
  rw [before]
  rfl

/-! ## What is kept -/

/-- What a timestamp of a count tells of it. -/
structure CountedBy (p : Precision) (c : Int64) (t : Timestamp) : Prop where
  /-- The instant of the count itself. -/
  instant : instantOfCount? p c.toInt = some t.instant
  uncut : truncate p t.instant = t.instant
  precision : t.precision = p
  epoch : t.epoch = c.toInt

/-- What truncation leaves of an instant. -/
structure CutTo (p : Precision) (i left : Instant) : Prop where
  /-- The nanoseconds of whole units are ones that the instant can have. -/
  found : i.withNanos? (i.nanos - i.nanos % p.nanos) = some left
  seconds : left.seconds = i.seconds
  units : p.nanos ∣ left.nanos
  below : left.nanos ≤ i.nanos
  close : i.nanos < left.nanos + p.nanos

theorem countedBy_of_ofCount (h : ofCount p c = .ok t) : CountedBy p c t := by
  obtain ⟨found, precision⟩ := ofCount_eq_ok_iff.1 h
  exact ⟨found, truncate_of_count found, precision, epoch_of_ofCount h⟩

theorem cutTo_truncate (h : i.Kept) (p : Precision) : CutTo p i (truncate p i) := by
  have found := withNanos_wholeUnits h p
  rw [truncate_eq h]
  exact ⟨found, rfl, p.dvd_wholeUnits i.nanos, p.wholeUnits_le i.nanos, p.lt_wholeUnits_add i.nanos⟩

/-- **Counts are exact, and truncation cuts down.** A count is that of its timestamp, a negative one too, and
of two counts the greater is later. Of every instant of a text, truncation keeps the seconds and the whole
units of the nanoseconds; to truncate again, or to a finer precision before, makes no difference, and no
later instant gets before an earlier one. -/
theorem counts_exact_and_truncation_cuts (p : Precision) :
    (∀ c t, ofCount p c = .ok t → CountedBy p c t) ∧
    (∀ c d t u, ofCount p c = .ok t → ofCount p d = .ok u → c < d → compare t u = .lt) ∧
    (∀ cs i, Instant.read cs = .ok i → i.Kept) ∧
    ∀ i, i.Kept → CutTo p i (truncate p i) ∧ truncate p (truncate p i) = truncate p i ∧
      (∀ q : Precision, q.nanos ≤ p.nanos → truncate p (truncate q i) = truncate p i) ∧
      ∀ j, j.Kept → (compare i j).isLE = true →
        (compare (truncate p i) (truncate p j)).isLE = true := by
  refine ⟨fun _ _ => countedBy_of_ofCount, fun _ _ _ _ => before_of_ofCounts, fun _ _ => Instant.kept_of_read, ?_⟩
  intro i kept
  refine ⟨cutTo_truncate kept p, truncate_truncate kept (Nat.le_refl _), ?_, ?_⟩
  · intro q finer
    exact truncate_truncate kept finer
  · intro j keptToo le
    exact truncate_mono kept keptToo le

/-- Milliseconds before and after the start of 1970, and a leap second that would have ended 1969. -/
theorem counts_exact_and_truncation_cuts_around_1970 :
    (∃ before after : Timestamp,
      ofCount .millisecond (-1) = .ok before ∧ ofCount .millisecond 1 = .ok after ∧
      CountedBy .millisecond (-1) before ∧ compare before after = .lt) ∧
    ∃ last leap : Instant,
      Instant.read "1969-12-31T23:59:59.999999999Z".toList = .ok last ∧
      Instant.read "1969-12-31T23:59:60.123456789Z".toList = .ok leap ∧
      CutTo .millisecond leap ⟨-1, 1123000000⟩ ∧
      truncate .millisecond (truncate .microsecond leap) = ⟨-1, 1123000000⟩ ∧
      (compare (truncate .millisecond last) (truncate .millisecond leap)).isLE = true := by
  obtain ⟨counted, ordered, read, cuts⟩ := counts_exact_and_truncation_cuts .millisecond
  have before : ofCount .millisecond (-1) = .ok ⟨⟨-1, 999000000⟩, .millisecond⟩ :=
    ofCount_eq_ok_iff.2 ⟨by decide +kernel, rfl⟩
  have after : ofCount .millisecond 1 = .ok ⟨⟨0, 1000000⟩, .millisecond⟩ :=
    ofCount_eq_ok_iff.2 ⟨by decide +kernel, rfl⟩
  have last : Instant.read "1969-12-31T23:59:59.999999999Z".toList = .ok ⟨-1, 999999999⟩ := by rfl
  have leap : Instant.read "1969-12-31T23:59:60.123456789Z".toList = .ok ⟨-1, 1123456789⟩ := by rfl
  obtain ⟨cut, -, finer, -⟩ := cuts _ (read _ _ leap)
  obtain ⟨-, -, -, later⟩ := cuts _ (read _ _ last)
  refine ⟨⟨_, _, before, after, counted _ _ before, ordered _ _ _ _ before after (by decide)⟩,
    _, _, last, leap, cut, finer .microsecond (by decide), later _ (read _ _ leap) (by decide)⟩

end Timestamp

end Conform.Time
