import Conform.Proofs.Text.Blank
import Conform.Proofs.Text.Digits
import Conform.Proofs.Time.Calendar
import Conform.Proofs.Time.Instant

/-!
# Printed instants

A printed instant is read as the instant it was, if no digits of its fraction are left out: by the lenient
reader always, by the strict one if the year has four digits. Each part of the text is read on its own, in
front of anything that cannot go on with it.
-/

namespace Conform.Time

open Conform.Text

namespace Instant

variable {run rest : List Char} {n : Nat}

/-! ## Numbers -/

/-- Reading digits is the library's `Nat.ofDigitChars`. -/
theorem digitsAfter_eq (n : Nat) (run : List Char) : digitsAfter n run = Nat.ofDigitChars 10 run n := by
  induction run generalizing n with
  | nil => rfl
  | cons c cs ih =>
    rw [Nat.ofDigitChars_cons, ← ih, Nat.mul_comm]
    rfl

theorem digitsAfter_padded (width n : Nat) : digitsAfter 0 (padded width n).toList = n := by
  rw [digitsAfter_eq, ofDigitChars_padded]

theorem one_le_length_encodeChar (c : Char) : 1 ≤ (Utf8.encodeChar c).length := by
  unfold Utf8.encodeChar
  dsimp only
  split
  · simp
  · split
    · simp
    · split <;> simp

/-- A text takes a byte for each character at least. -/
theorem length_le_utf8 (cs : List Char) : cs.length ≤ Utf8.length cs := by
  induction cs with
  | nil => exact Nat.zero_le _
  | cons c cs ih =>
    have first := one_le_length_encodeChar c
    change cs.length + 1 ≤ (Utf8.encodeChar c ++ Utf8.encode cs).length
    rw [List.length_append]
    change cs.length ≤ (Utf8.encode cs).length at ih
    omega

theorem takeWhile_append_stops (digits : ∀ c ∈ run, isDigit c = true) (stops : Stops rest) {most : Nat}
    (few : run.length ≤ most) : ((run ++ rest).take most).takeWhile isDigit = run := by
  rw [List.take_append, List.take_of_length_le few, List.takeWhile_append_of_pos digits,
    takeWhile_of_stops (stops.take _), List.append_nil]

/-- A number is read up to what does not go on with it. -/
theorem number_append {least most : Nat} (digits : ∀ c ∈ run, isDigit c = true) (stops : Stops rest)
    (enough : least ≤ run.length) (few : run.length ≤ most) :
    number least most (run ++ rest) = .ok (digitsAfter 0 run, rest) := by
  have bytes : ¬Utf8.length (run ++ rest) < least := by
    have total := length_le_utf8 (run ++ rest)
    rw [List.length_append] at total
    omega
  rw [number, if_neg bytes, takeWhile_append_stops digits stops few]
  dsimp only
  rw [if_neg (by omega), List.drop_left]
  rfl

/-- A fixed number of digits is read off the front. -/
theorem digits_append {count : Nat} (digits : ∀ c ∈ run, isDigit c = true) (length : run.length = count)
    (rest : List Char) : Instant.digits count (run ++ rest) = .ok (digitsAfter 0 run, rest) := by
  have first : (run ++ rest).take count = run := List.take_left' length
  unfold Instant.digits
  dsimp only
  rw [first, if_pos ⟨length, List.all_eq_true.2 digits⟩, List.drop_left' length]
  rfl

theorem digits_padded {count : Nat} (pos : 0 < count) (room : n < Nat.pow 10 count) (rest : List Char) :
    digits count ((padded count n).toList ++ rest) = .ok (n, rest) := by
  rw [digits_append (isDigit_padded count n) (length_padded_of_lt pos room), digitsAfter_padded]

/-- A number that has at least as many digits as its width asks for. -/
theorem number_padded {most : Nat} (width n : Nat) (stops : Stops rest)
    (few : (padded width n).toList.length ≤ most) :
    number 1 most ((padded width n).toList ++ rest) = .ok (n, rest) := by
  have pos : 0 < (Nat.toDigits 10 n).length := Nat.length_toDigits_pos
  have enough : 1 ≤ (padded width n).toList.length := by
    rw [length_padded]
    omega
  rw [number_append (isDigit_padded width n) stops enough few, digitsAfter_padded]

/-! ## No blanks in front -/

theorem not_blank_of_isDigit {c : Char} (h : isDigit c = true) : isBlank c = false := by
  have range := toNat_of_isDigit h
  exact not_blank_of_bounds (by omega) (by omega)

theorem exists_padded (width n : Nat) :
    ∃ c cs, (padded width n).toList = c :: cs ∧ isDigit c = true := by
  have pos : 0 < (Nat.toDigits 10 n).length := Nat.length_toDigits_pos
  have length : (padded width n).toList.length ≠ 0 := by
    rw [length_padded]
    omega
  obtain ⟨c, cs, text⟩ := List.exists_cons_of_length_pos (Nat.pos_of_ne_zero length)
  exact ⟨c, cs, text, isDigit_padded width n c (text ▸ List.mem_cons_self)⟩

theorem trimLeft_padded (width n : Nat) (rest : List Char) :
    trimLeft ((padded width n).toList ++ rest) = (padded width n).toList ++ rest := by
  obtain ⟨c, cs, text, digit⟩ := exists_padded width n
  rw [text]
  exact List.dropWhile_cons_of_neg (by simp [not_blank_of_isDigit digit])

theorem looseNumber_two (room : n < 100) (rest : List Char) (stops : Stops rest) :
    looseNumber 2 ((padded 2 n).toList ++ rest) = .ok (n, rest) := by
  have length : (padded 2 n).toList.length = 2 := length_padded_of_lt (by decide) room
  rw [looseNumber, trimLeft_padded, number_padded 2 n stops (by omega)]

theorem looseExpect_cons {c : Char} (h : isBlank c = false) (rest : List Char) :
    looseExpect c (c :: rest) = .ok rest := by
  have first : trimLeft (c :: rest) = c :: rest := List.dropWhile_cons_of_neg (by simp [h])
  rw [looseExpect, first, expect, if_pos rfl]

/-! ## Years -/

/-- A year that is written with four digits and no sign. -/
def IsFourDigits (year : Int) : Prop :=
  0 ≤ year ∧ year ≤ 9999

instance (year : Int) : Decidable (IsFourDigits year) :=
  inferInstanceAs (Decidable (_ ∧ _))

variable {year : Int}

theorem yearText_of_fourDigits (h : IsFourDigits year) : yearText year = padded 4 year.toNat :=
  if_pos h

/-- Other years begin with a sign. -/
theorem yearText_of_not_fourDigits (h : ¬IsFourDigits year) :
    (yearText year).toList = (if year < 0 then '-' else '+') :: (padded 4 year.natAbs).toList := by
  have long : yearText year = (if year < 0 then "-" else "+") ++ padded 4 year.natAbs := if_neg h
  rw [long, String.toList_append]
  split <;> rfl

theorem room_of_fourDigits (h : IsFourDigits year) : year.toNat < Nat.pow 10 4 := by
  have last := h.2
  show year.toNat < 10000
  omega

theorem digits_yearText (h : IsFourDigits year) (rest : List Char) :
    digits 4 ((yearText year).toList ++ rest) = .ok (year.toNat, rest) := by
  rw [yearText_of_fourDigits h, digits_padded (by decide) (room_of_fourDigits h)]

/-- Any other year is written with a sign or more digits, and the strict reader refuses it. -/
theorem digits_yearText_of_not (h : ¬IsFourDigits year) (rest : List Char) :
    digits 4 ((yearText year).toList ++ rest) = .error .invalid := by
  have sign : isDigit (if year < 0 then '-' else '+') = false := by split <;> rfl
  rw [yearText_of_not_fourDigits h]
  unfold digits
  dsimp only
  rw [if_neg]
  rintro ⟨-, all⟩
  rw [List.cons_append, List.take_succ_cons, List.all_cons, sign] at all
  contradiction

theorem looseYear_minus (cs : List Char) :
    looseYear ('-' :: cs) = (number 1 cs.length cs).map fun p => (-(p.1 : Int), p.2) := rfl

theorem looseYear_plus (cs : List Char) :
    looseYear ('+' :: cs) = (number 1 cs.length cs).map fun p => ((p.1 : Int), p.2) := rfl

/-- A year without a sign has four digits at most. -/
theorem looseYear_digit {c : Char} (h : isDigit c = true) (cs : List Char) :
    looseYear (c :: cs) = (number 1 4 (c :: cs)).map fun p => ((p.1 : Int), p.2) := by
  have first : trimLeft (c :: cs) = c :: cs :=
    List.dropWhile_cons_of_neg (by simp [not_blank_of_isDigit h])
  unfold looseYear
  rw [first]
  split
  · rename_i minus
    cases minus
    cases h
  · rename_i plus
    cases plus
    cases h
  · rfl

/-- The loose reader takes every year that is written. -/
theorem looseYear_yearText (year : Int) (stops : Stops rest) :
    looseYear ((yearText year).toList ++ rest) = .ok (year, rest) := by
  by_cases range : IsFourDigits year
  · have length := length_padded_of_lt (by decide) (room_of_fourDigits range)
    have read := number_padded 4 year.toNat stops (Nat.le_of_eq length)
    have same : ((year.toNat : Nat) : Int) = year := Int.toNat_of_nonneg range.1
    obtain ⟨c, cs, text, digit⟩ := exists_padded 4 year.toNat
    rw [yearText_of_fourDigits range]
    rw [text, List.cons_append] at read ⊢
    rw [looseYear_digit digit]
    exact Attempt.map_eq_ok.2 ⟨_, read, congrArg (·, rest) same⟩
  · have read : number 1 ((padded 4 year.natAbs).toList ++ rest).length
        ((padded 4 year.natAbs).toList ++ rest) = .ok (year.natAbs, rest) := by
      apply number_padded 4 year.natAbs stops
      rw [List.length_append]
      omega
    rw [yearText_of_not_fourDigits range]
    by_cases negative : year < 0
    · have same : -((year.natAbs : Nat) : Int) = year := by omega
      rw [if_pos negative, List.cons_append, looseYear_minus]
      exact Attempt.map_eq_ok.2 ⟨_, read, congrArg (·, rest) same⟩
    · have same : ((year.natAbs : Nat) : Int) = year := by omega
      rw [if_neg negative, List.cons_append, looseYear_plus]
      exact Attempt.map_eq_ok.2 ⟨_, read, congrArg (·, rest) same⟩

/-! ## Fractions of a second -/

/-- Whether digits of a fraction that are left out are zeros. -/
def Fraction.Keeps (nanos : Nat) : Fraction → Prop
  | .digits k => k ≤ 9 ∧ Nat.pow 10 (9 - k) ∣ nanos
  | .fewest => True

/-- A written fraction reads back as its nanoseconds. -/
theorem fraction_padded {k : Nat} (pos : 0 < k) (few : k ≤ 9) (room : n < Nat.pow 10 k)
    (stops : Stops rest) :
    fraction ((padded k n).toList ++ rest) = .ok (n * Nat.pow 10 (9 - k), rest) := by
  have length := length_padded_of_lt pos room
  refine Attempt.bind_eq_ok.2 ⟨_, number_padded k n stops (by omega), ?_⟩
  dsimp only
  rw [takeWhile_append_stops (isDigit_padded k n) stops (by omega), length, dropWhile_of_stops stops]
  rfl

/-- A fraction reads back behind its point, if the digits hold all of the nanoseconds. -/
theorem optionalFraction_point {k nanos : Nat} (pos : 0 < k) (few : k ≤ 9) (small : nanos < 1000000000)
    (whole : Nat.pow 10 (9 - k) ∣ nanos) (stops : Stops rest) :
    optionalFraction ('.' :: ((padded k (nanos / Nat.pow 10 (9 - k))).toList ++ rest))
      = .ok (nanos, rest) := by
  have room : nanos / Nat.pow 10 (9 - k) < Nat.pow 10 k := by
    apply Nat.div_lt_of_lt_mul
    calc nanos
        < Nat.pow 10 (9 - k + k) := by rwa [Nat.sub_add_cancel few]
      _ = Nat.pow 10 (9 - k) * Nat.pow 10 k := Nat.pow_add 10 (9 - k) k
  have read := fraction_padded pos few room stops
  rwa [Nat.div_mul_cancel whole] at read

/-- A fraction whose digits are all written, or need not be, is read as the nanoseconds it was. -/
theorem optionalFraction_fractionText {f : Fraction} {nanos : Nat} (keeps : f.Keeps nanos)
    (small : nanos < 1000000000) (rest : List Char) :
    optionalFraction ((fractionText nanos f).toList ++ 'Z' :: rest) = .ok (nanos, 'Z' :: rest) := by
  have stops := Stops.cons (show isDigit 'Z' = false from rfl) rest
  have point {k : Nat} (pos : 0 < k) (few : k ≤ 9) (whole : Nat.pow 10 (9 - k) ∣ nanos) :
      optionalFraction (("." ++ padded k (nanos / Nat.pow 10 (9 - k))).toList ++ 'Z' :: rest)
        = .ok (nanos, 'Z' :: rest) := by
    rw [String.toList_append]
    exact optionalFraction_point pos few small whole stops
  cases f with
  | digits k =>
    obtain ⟨few, whole⟩ := keeps
    cases k with
    | zero =>
      have none : nanos = 0 := by
        change 1000000000 ∣ nanos at whole
        omega
      rw [none]
      rfl
    | succ k => exact point (Nat.succ_pos k) few whole
  | fewest =>
    unfold fractionText
    dsimp only
    split
    · rename_i none
      rw [none]
      rfl
    · split
      · rename_i thousandths
        exact point (by decide) (by decide) (Nat.dvd_of_mod_eq_zero thousandths)
      · split
        · rename_i millionths
          exact point (by decide) (by decide) (Nat.dvd_of_mod_eq_zero millionths)
        · have all := point (k := 9) (by decide) (by decide) (Nat.one_dvd nanos)
          rwa [show nanos / Nat.pow 10 (9 - 9) = nanos from Nat.div_one nanos] at all

theorem stops_fractionText (f : Fraction) (nanos : Nat) (rest : List Char) :
    Stops ((fractionText nanos f).toList ++ 'Z' :: rest) := by
  have none : Stops (("" : String).toList ++ 'Z' :: rest) := Stops.cons rfl rest
  have point (digits : String) : Stops (("." ++ digits).toList ++ 'Z' :: rest) := by
    rw [String.toList_append]
    exact Stops.cons rfl _
  unfold fractionText
  split
  · exact none
  · exact point _
  · split
    · exact none
    · split
      · exact point _
      · split <;> exact point _

/-! ## Dates and clocks -/

def date (t : Instant) : Date :=
  Date.ofDayNumber (t.seconds / 86400)

def secondOfDay (t : Instant) : Nat :=
  (t.seconds % 86400).toNat

/-- The second that a clock shows: in a leap second the sixtieth. -/
def clockSecond (t : Instant) : Nat :=
  t.secondOfDay % 60 + if decide (1000000000 ≤ t.nanos) then 1 else 0

/-- The nanoseconds since a clock's second began. -/
def clockNanos (t : Instant) : Nat :=
  if decide (1000000000 ≤ t.nanos) then t.nanos - 1000000000 else t.nanos

theorem toList_text (f : Fraction) (t : Instant) : (t.text f).toList =
    (yearText t.date.year).toList ++ '-' :: ((padded 2 t.date.month).toList ++ '-' ::
      ((padded 2 t.date.day).toList ++ 'T' :: ((padded 2 (t.secondOfDay / 3600)).toList ++ ':' ::
        ((padded 2 (t.secondOfDay / 60 % 60)).toList ++ ':' :: ((padded 2 t.clockSecond).toList ++
          ((fractionText t.clockNanos f).toList ++ ['Z'])))))) := by
  have dash : "-".toList = ['-'] := rfl
  have mark : "T".toList = ['T'] := rfl
  have colon : ":".toList = [':'] := rfl
  have zone : "Z".toList = ['Z'] := rfl
  simp only [text, date, secondOfDay, clockSecond, clockNanos, String.toList_append, dash, mark, colon, zone,
    List.append_assoc, List.cons_append, List.nil_append]

variable {t : Instant}

theorem secondOfDay_lt (t : Instant) : t.secondOfDay < 86400 := by
  unfold secondOfDay
  omega

theorem clockNanos_lt (h : t.Proper) : t.clockNanos < 1000000000 := by
  have nanos := h.nanos
  unfold clockNanos
  split
  · omega
  · rename_i early
    simpa using early

theorem clockSecond_lt (t : Instant) : t.clockSecond < 61 := by
  unfold clockSecond
  split <;> omega

theorem isReal_date (t : Instant) : t.date.isReal = true :=
  Date.isReal_ofDayNumber _

/-- Months and days have two digits. -/
theorem date_lt (t : Instant) : t.date.month < 100 ∧ t.date.day < 100 := by
  obtain ⟨⟨⟨-, month⟩, -⟩, day⟩ : ((1 ≤ t.date.month ∧ t.date.month ≤ 12) ∧ 1 ≤ t.date.day) ∧
      t.date.day ≤ daysInMonth t.date.year t.date.month := by
    simpa [Date.isReal] using isReal_date t
  have most := daysInMonth_le t.date.year t.date.month
  omega

/-- What a clock shows is the time of day that it stands for. -/
theorem timeOfDay_clock (h : t.Proper) : timeOfDay (t.secondOfDay / 3600) (t.secondOfDay / 60 % 60)
    t.clockSecond t.clockNanos = .ok (t.secondOfDay, t.nanos) := by
  have day := secondOfDay_lt t
  have parts : t.secondOfDay / 3600 * 3600 + t.secondOfDay / 60 % 60 * 60 + t.secondOfDay % 60
      = t.secondOfDay := by
    omega
  unfold timeOfDay
  rw [if_neg (by have := clockSecond_lt t; omega)]
  unfold clockSecond clockNanos
  by_cases leap : 1000000000 ≤ t.nanos
  · have last : t.secondOfDay % 60 = 59 := by
      have minute := h.leap leap
      unfold secondOfDay
      omega
    simp only [leap, decide_true, if_true, last]
    rw [Nat.sub_add_cancel leap, ← last, parts]
  · simp only [leap, decide_false, Bool.false_eq_true, if_false, Nat.add_zero]
    rw [if_neg (by omega), parts]

/-- The date and the second of the day of an instant lead back to it. -/
theorem ofLocal_date (h : t.Proper) : ofLocal t.date (t.secondOfDay, t.nanos) 0 = .ok t := by
  have same : t.date.dayNumber * 86400 + (t.secondOfDay : Int) - 0 = t.seconds := by
    unfold date secondOfDay
    rw [Date.dayNumber_ofDayNumber]
    omega
  unfold ofLocal
  dsimp only
  rw [same, if_pos h.range]

theorem calendarDate_date (t : Instant) : calendarDate t.date = .ok t.date :=
  if_pos (isReal_date t)

/-! ## Printed instants -/

theorem le_length_padded (width n : Nat) : width ≤ (padded width n).toList.length := by
  rw [length_padded]
  omega

theorem le_length_yearText (year : Int) : 4 ≤ (yearText year).toList.length := by
  by_cases range : IsFourDigits year
  · rw [yearText_of_fourDigits range]
    exact le_length_padded 4 _
  · rw [yearText_of_not_fourDigits range, List.length_cons]
    exact Nat.le_succ_of_le (le_length_padded 4 _)

/-- No printed instant is too short to be read. -/
theorem le_utf8_text (f : Fraction) (t : Instant) : 19 ≤ Utf8.length (t.text f).toList := by
  refine Nat.le_trans ?_ (length_le_utf8 _)
  have year := le_length_yearText t.date.year
  have two (n : Nat) := le_length_padded 2 n
  have month := two t.date.month
  have day := two t.date.day
  have hour := two (t.secondOfDay / 3600)
  have minute := two (t.secondOfDay / 60 % 60)
  have second := two t.clockSecond
  rw [toList_text]
  simp only [List.length_append, List.length_cons]
  omega

theorem expect_cons (c : Char) (rest : List Char) : expect c (c :: rest) = .ok rest :=
  if_pos rfl

theorem digits_two {n : Nat} (room : n < 100) (rest : List Char) :
    digits 2 ((padded 2 n).toList ++ rest) = .ok (n, rest) :=
  digits_padded (by decide) room rest

/-- **The strict reader reads what is printed of a year with four digits.** -/
theorem read_text {f : Fraction} (h : t.Proper) (keeps : f.Keeps t.clockNanos)
    (year : IsFourDigits t.date.year) : read (t.text f).toList = .ok t := by
  have long : ¬Utf8.length (t.text f).toList < 19 := Nat.not_lt.2 (le_utf8_text f t)
  have midnight := secondOfDay_lt t
  have month := digits_two (date_lt t).1
  have day := digits_two (date_lt t).2
  have hour := digits_two (show t.secondOfDay / 3600 < 100 by omega)
  have minute := digits_two (show t.secondOfDay / 60 % 60 < 100 by omega)
  have second := digits_two (Nat.lt_trans (clockSecond_lt t) (by decide))
  have date : calendarDate ⟨t.date.year.toNat, t.date.month, t.date.day⟩ = .ok t.date := by
    rw [Int.toNat_of_nonneg year.1]
    exact calendarDate_date t
  unfold read
  rw [Attempt.check_eq_ok]
  refine ⟨long, ?_⟩
  rw [toList_text]
  simp only [Attempt.bind_eq_ok, Attempt.check_eq_ok]
  exact ⟨_, digits_yearText year _, _, expect_cons '-' _, _, month _, _, expect_cons '-' _, _, day _, _, date,
    _, rfl, _, hour _, _, expect_cons ':' _, _, minute _, _, expect_cons ':' _, _, second _,
    _, optionalFraction_fractionText keeps (clockNanos_lt h) [], _, timeOfDay_clock h,
    (0, []), rfl, by decide, by decide, ofLocal_date h⟩

/-- The strict reader refuses the sign that a year of more digits, or one before the year zero, begins with. -/
theorem read_text_of_not_fourDigits (f : Fraction) (year : ¬IsFourDigits t.date.year) :
    read (t.text f).toList = .error .invalid := by
  have long : ¬Utf8.length (t.text f).toList < 19 := Nat.not_lt.2 (le_utf8_text f t)
  unfold read
  rw [if_neg long, toList_text, digits_yearText_of_not year]
  rfl

/-- **The lenient reader reads everything that is printed.** -/
theorem readLoose_text {f : Fraction} (h : t.Proper) (keeps : f.Keeps t.clockNanos) :
    readLoose (t.text f).toList = .ok t := by
  have midnight := secondOfDay_lt t
  have stops {c : Char} (hc : isDigit c = false) (cs : List Char) := Stops.cons hc cs
  have month := looseNumber_two (date_lt t).1
  have day := looseNumber_two (date_lt t).2
  have hour := looseNumber_two (show t.secondOfDay / 3600 < 100 by omega)
  have minute := looseNumber_two (show t.secondOfDay / 60 % 60 < 100 by omega)
  have second := looseNumber_two (Nat.lt_trans (clockSecond_lt t) (by decide))
  have dash := looseExpect_cons (show isBlank '-' = false by decide)
  have colon := looseExpect_cons (show isBlank ':' = false by decide)
  unfold readLoose
  rw [toList_text]
  simp only [Attempt.bind_eq_ok, Attempt.check_eq_ok]
  exact ⟨_, looseYear_yearText _ (stops rfl _), _, dash _, _, month _ (stops rfl _), _, dash _,
    _, day _ (stops rfl _), _, rfl, _, hour _ (stops rfl _), _, colon _, _, minute _ (stops rfl _), _, colon _,
    _, second _ (stops_fractionText _ _ _), _, optionalFraction_fractionText keeps (clockNanos_lt h) [],
    (0, []), rfl, by decide, _, calendarDate_date t, _, timeOfDay_clock h, by decide, ofLocal_date h⟩

end Instant

end Conform.Time
