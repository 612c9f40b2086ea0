import Conform.Text.Digits

/-!
# Numbers in digits

The digits of a natural number, in any base up to sixteen, are read back as the number. No digit but
that of zero is a leading zero. A number that is filled with zeros to a width still is the number.
-/

namespace Conform.Text

variable {base n : Nat}

theorem digitValue_digitChar : ∀ d < 16, digitValue? (Nat.digitChar d) = some d := by
  decide

/-- A digit that was written is read as its value. -/
theorem digitIn_digitChar (high : base ≤ 16) {d : Nat} (h : d < base) :
    digitIn? base (Nat.digitChar d) = some d := by
  rw [digitIn?, digitValue_digitChar d (by omega), Option.filter_some, if_pos (decide_eq_true h)]

/-- The value of a digit is less than its code. -/
theorem lt_of_digitIn {base d : Nat} {c : Char} (h : digitIn? base c = some d) : d < c.toNat := by
  have value := (Option.filter_eq_some_iff.1 h).1
  unfold digitValue? at value
  split at value
  · rename_i digit
    have : 48 ≤ c.toNat := digit.1
    cases value
    change c.toNat - 48 < c.toNat
    omega
  · split at value
    · rename_i small
      have : 97 ≤ c.toNat := small.1
      cases value
      change c.toNat - 97 + 10 < c.toNat
      omega
    · split at value
      · rename_i capital
        have : 65 ≤ c.toNat := capital.1
        cases value
        change c.toNat - 65 + 10 < c.toNat
        omega
      · cases value

/-- Digits are folded part by part, the first part's number carried into the second. -/
theorem foldDigits_append (base n : Nat) (cs ds : List Char) :
    foldDigits? base n (cs ++ ds) = (foldDigits? base n cs).bind fun m => foldDigits? base m ds := by
  induction cs generalizing n with
  | nil => rfl
  | cons c cs ih =>
    rw [List.cons_append, foldDigits?, foldDigits?]
    cases digitIn? base c with
    | none => rfl
    | some d => exact ih _

/-- The digits of a number are read back as the number. -/
theorem foldDigits_toDigits (low : 1 < base) (high : base ≤ 16) (n : Nat) :
    foldDigits? base 0 (Nat.toDigits base n) = some n := by
  induction n using Nat.strongRecOn with
  | ind n ih =>
    rw [Nat.toDigits_eq_if low]
    split
    · rename_i small
      rw [foldDigits?, digitIn_digitChar high small]
      dsimp only
      rw [foldDigits?, Nat.zero_mul, Nat.zero_add]
    · rename_i large
      have less : n / base < n := Nat.div_lt_self (by omega) low
      have digit : n % base < base := Nat.mod_lt _ (by omega)
      have value : n / base * base + n % base = n := by
        rw [Nat.mul_comm]
        exact Nat.div_add_mod n base
      rw [foldDigits_append, ih _ less, Option.bind_some, foldDigits?, digitIn_digitChar high digit]
      dsimp only
      rw [foldDigits?, value]

/-- A number is written in the digits of its base. -/
theorem mem_toDigits (low : 1 < base) {c : Char} (h : c ∈ Nat.toDigits base n) :
    ∃ d < base, c = Nat.digitChar d := by
  induction n using Nat.strongRecOn with
  | ind n ih =>
    rw [Nat.toDigits_eq_if low] at h
    split at h
    · rename_i small
      exact ⟨n, small, List.mem_singleton.1 h⟩
    · rename_i large
      rcases List.mem_append.1 h with h | h
      · exact ih (n / base) (Nat.div_lt_self (by omega) low) h
      · exact ⟨n % base, Nat.mod_lt _ (by omega), List.mem_singleton.1 h⟩

theorem isSome_digitIn_toDigits (low : 1 < base) (high : base ≤ 16) (n : Nat) :
    ∀ c ∈ Nat.toDigits base n, (digitIn? base c).isSome = true := by
  intro c hc
  obtain ⟨d, hd, rfl⟩ := mem_toDigits low hc
  rw [digitIn_digitChar high hd]
  rfl

/-- A positive number does not begin with a zero. -/
theorem head_toDigits (low : 1 < base) (high : base ≤ 16) (h : 0 < n) :
    (Nat.toDigits base n).head? ≠ some '0' := by
  induction n using Nat.strongRecOn with
  | ind n ih =>
    rw [Nat.toDigits_eq_if low]
    split
    · rename_i small
      have nonzero : ∀ d < 16, 0 < d → Nat.digitChar d ≠ '0' := by decide
      simpa using nonzero n (by omega) h
    · rename_i large
      have positive : 0 < n / base := Nat.div_pos (by omega) (by omega)
      have first := ih (n / base) (Nat.div_lt_self h low) positive
      obtain ⟨c, cs, digits⟩ := List.exists_cons_of_ne_nil (Nat.toDigits_ne_nil (n := n / base))
      rw [digits] at first ⊢
      exact first

theorem toDigits_zero (low : 1 < base) : Nat.toDigits base 0 = ['0'] :=
  Nat.toDigits_of_lt_base (by omega)

/-! ## Numbers filled with zeros -/

theorem isDigit_toDigits (n : Nat) : ∀ c ∈ Nat.toDigits 10 n, isDigit c = true := by
  intro c hc
  obtain ⟨d, hd, rfl⟩ := mem_toDigits (by decide) hc
  have digit : ∀ d < 10, isDigit (Nat.digitChar d) = true := by decide
  exact digit d hd

theorem isDigit_padded (width n : Nat) : ∀ c ∈ (padded width n).toList, isDigit c = true := by
  intro c hc
  rw [padded, String.toList_ofList, List.mem_append] at hc
  rcases hc with zero | digit
  · rw [List.eq_of_mem_replicate zero]
    rfl
  · exact isDigit_toDigits n c digit

theorem length_padded (width n : Nat) :
    (padded width n).toList.length = max width (Nat.toDigits 10 n).length := by
  rw [padded, String.toList_ofList, List.length_append, List.length_replicate]
  omega

/-- A number that has room in its width is filled up to it. -/
theorem length_padded_of_lt {width n : Nat} (pos : 0 < width) (room : n < Nat.pow 10 width) :
    (padded width n).toList.length = width := by
  have few := (Nat.length_toDigits_le_iff (by decide) pos).2 room
  rw [length_padded, Nat.max_eq_left few]

/-- The zeros in front count for nothing. -/
theorem ofDigitChars_padded (width n : Nat) : Nat.ofDigitChars 10 (padded width n).toList 0 = n := by
  rw [padded, String.toList_ofList, Nat.ofDigitChars_append, Nat.ofDigitChars_replicate_zero,
    Nat.mul_zero, Nat.ofDigitChars_toDigits (by decide) (by decide)]

/-! ## Runs of digits -/

section Run

variable {run rest : List Char}

theorem toNat_of_isDigit {c : Char} (h : isDigit c = true) : 48 ≤ c.toNat ∧ c.toNat ≤ 57 := by
  have both : '0' ≤ c ∧ c ≤ '9' := by simpa [isDigit] using h
  exact both

/-- What follows a number does not begin with a digit. -/
def Stops (rest : List Char) : Prop :=
  ∀ c ∈ rest.head?, isDigit c = false

theorem Stops.cons {c : Char} (h : isDigit c = false) (cs : List Char) : Stops (c :: cs) := by
  intro d hd
  obtain rfl := Option.some.inj hd
  exact h

theorem Stops.take (h : Stops rest) (k : Nat) : Stops (rest.take k) := by
  cases rest with
  | nil => rwa [List.take_nil]
  | cons c cs =>
    cases k with
    | zero => exact fun d hd => by cases hd
    | succ k => exact .cons (h c rfl) _

theorem takeWhile_of_stops (h : Stops rest) : rest.takeWhile isDigit = [] := by
  cases rest with
  | nil => rfl
  | cons c cs => exact List.takeWhile_cons_of_neg (by simp [h c rfl])

theorem dropWhile_of_stops (h : Stops rest) : rest.dropWhile isDigit = rest := by
  cases rest with
  | nil => rfl
  | cons c cs => exact List.dropWhile_cons_of_neg (by simp [h c rfl])

/-- A run of digits is cut off where it ends. -/
theorem span_digits (digits : ∀ c ∈ run, isDigit c = true) (stops : Stops rest) :
    (run ++ rest).takeWhile isDigit = run ∧ (run ++ rest).dropWhile isDigit = rest := by
  rw [List.takeWhile_append_of_pos digits, List.dropWhile_append_of_pos digits,
    takeWhile_of_stops stops, dropWhile_of_stops stops, List.append_nil]
  exact ⟨rfl, rfl⟩

end Run

/-! ## Literals -/

/-- Written natural numbers read back in every base up to sixteen. -/
theorem readNat_toDigits (low : 1 < base) (high : base ≤ 16) (n : Nat) :
    readNat? base (Nat.toDigits base n) = some n := by
  have digits : ¬(Nat.toDigits base n).isEmpty = true := by simp
  rw [readNat?, if_neg digits, foldDigits_toDigits low high]

/-- What is written in digits begins with one, and so with no sign. -/
theorem exists_digit (low : 1 < base) (high : base ≤ 16) (n : Nat) :
    ∃ c cs, Nat.toDigits base n = c :: cs ∧ (digitIn? base c).isSome = true := by
  obtain ⟨c, cs, digits⟩ := List.exists_cons_of_ne_nil (Nat.toDigits_ne_nil (n := n) (b := base))
  exact ⟨c, cs, digits, isSome_digitIn_toDigits low high n c (digits ▸ List.mem_cons_self)⟩

theorem readUnsigned_toDigits (low : 1 < base) (high : base ≤ 16) (n : Nat) :
    readUnsigned? base (Nat.toDigits base n) = some n := by
  have read := readNat_toDigits low high n
  obtain ⟨c, cs, digits, digit⟩ := exists_digit low high n
  rw [digits] at read ⊢
  unfold readUnsigned?
  split
  · rename_i plus
    cases plus
    cases digit
  · exact read

theorem readInt_toDigits (low : 1 < base) (high : base ≤ 16) (n : Nat) :
    readInt? base (Nat.toDigits base n) = some (Int.ofNat n) := by
  have read := readNat_toDigits low high n
  obtain ⟨c, cs, digits, digit⟩ := exists_digit low high n
  rw [digits] at read ⊢
  unfold readInt?
  split
  · rename_i plus
    cases plus
    cases digit
  · rename_i minus
    cases minus
    cases digit
  · rw [read, Option.map_some]

/-- An integer in decimal is read back as the integer. -/
theorem readInt_decimalInt (i : Int) : readInt? 10 (decimalInt i).toList = some i := by
  have low : 1 < 10 := by decide
  have high : 10 ≤ 16 := by decide
  unfold decimalInt
  split
  · rename_i negative
    rw [String.toList_ofList, readInt?, readNat_toDigits low high, Option.map_some]
    congr 1
    simp only [Int.ofNat_eq_natCast]
    omega
  · rename_i nonneg
    rw [decimal, String.toList_ofList, readInt_toDigits low high]
    congr 1
    simp only [Int.ofNat_eq_natCast]
    omega

/-- A single character does not write its own code. -/
theorem lt_of_readInt_singleton {c : Char} {i : Int} (h : readInt? 10 [c] = some i) : i < c.toNat := by
  have digit {n : Nat} (read : readNat? 10 [c] = some n) : n < c.toNat := by
    change foldDigits? 10 0 [c] = some n at read
    rw [foldDigits?] at read
    split at read
    · rename_i d hd
      have := lt_of_digitIn hd
      change some (0 * 10 + d) = some n at read
      have := Option.some.inj read
      omega
    · cases read
  unfold readInt? at h
  split at h
  · rename_i plus
    cases plus
    cases h
  · rename_i minus
    cases minus
    cases h
  · obtain ⟨n, read, rfl⟩ := Option.map_eq_some_iff.1 h
    have := digit read
    simp only [Int.ofNat_eq_natCast]
    omega

end Conform.Text
