import Conform.Binary64.Text
import Conform.Proofs.Binary64.Shortest
import Conform.Proofs.Text.Digits
import Conform.Proofs.Text.Split

/-!
# Printed numbers

A finite number is read from its text as the number that it was, sign included, whichever layout it is
printed in. Wherever the point stands among the digits, the text is read as a decimal of the value of the
shortest one; so the two layouts differ in where the point is and not in what is read.
-/

namespace Conform.Binary64

open Conform.Text

variable {x : Binary64} {negative : Bool} {whole fraction rest : List Char} {r : ℚ}

/-! ## Digits and exponents -/

/-- Reading digits is the library's `Nat.ofDigitChars`, so its lemmas on padding and appending
serve. -/
theorem digitsValue_eq (cs : List Char) : digitsValue cs = Nat.ofDigitChars 10 cs 0 := by
  have after (n : Nat) : cs.foldl (fun n c => n * 10 + (c.toNat - '0'.toNat)) n = Nat.ofDigitChars 10 cs n := by
    induction cs generalizing n with
    | nil => rfl
    | cons c cs ih => rw [List.foldl_cons, ih, Nat.ofDigitChars_cons, Nat.mul_comm]
  exact after 0

theorem digitsValue_toDigits (n : Nat) : digitsValue (Nat.toDigits 10 n) = n := by
  rw [digitsValue_eq, Nat.ofDigitChars_toDigits (by decide) (by decide)]

/-- Zeros in front count for nothing. -/
theorem digitsValue_zeros (k : Nat) (cs : List Char) :
    digitsValue (List.replicate k '0' ++ cs) = digitsValue cs := by
  rw [digitsValue_eq, digitsValue_eq, Nat.ofDigitChars_append, Nat.ofDigitChars_replicate_zero,
    Nat.mul_zero]

/-- Zeros behind are powers of ten. -/
theorem digitsValue_append_zeros (k : Nat) (cs : List Char) :
    digitsValue (cs ++ List.replicate k '0') = digitsValue cs * Nat.pow 10 k := by
  rw [digitsValue_eq, digitsValue_eq, Nat.ofDigitChars_append, Nat.ofDigitChars_replicate_zero,
    Nat.mul_comm]
  rfl

/-- The digits of an exponent, with a minus sign in front of them or without. -/
theorem readExponent_digits (digits : ∀ c ∈ whole, isDigit c = true) (nonempty : whole ≠ []) :
    readExponent? ('e' :: whole) = some (digitsValue whole : Int) ∧
      readExponent? ('e' :: '-' :: whole) = some (-(digitsValue whole : Int)) := by
  have fine : ¬(whole.isEmpty = true ∨ (!whole.all isDigit) = true) := by
    simp [List.all_eq_true.2 digits, nonempty]
  obtain ⟨c, cs, rfl⟩ := List.exists_cons_of_ne_nil nonempty
  have digit := digits c List.mem_cons_self
  unfold readExponent?
  refine ⟨(if_pos (.inl rfl)).trans ?_, (if_pos (.inl rfl)).trans ?_⟩
  · dsimp only
    split
    · rename_i plus
      cases plus
      cases digit
    · rename_i minus
      cases minus
      cases digit
    · have unsigned : ¬(c :: cs).head? = some '-' := fun minus => by
        obtain rfl := Option.some.inj minus
        cases digit
      rw [if_neg fine, if_neg unsigned]
  · exact (if_neg fine).trans (if_pos List.head?_cons)

/-- An exponent is read as the integer it was. -/
theorem readExponent_decimalInt (e : Int) : readExponent? ('e' :: (decimalInt e).toList) = some e := by
  obtain ⟨plain, negated⟩ := readExponent_digits (isDigit_toDigits e.natAbs) Nat.toDigits_ne_nil
  rw [digitsValue_toDigits] at plain negated
  unfold decimalInt
  split
  · rw [String.toList_ofList, negated]
    congr 1
    omega
  · rw [decimal, String.toList_ofList, plain]
    congr 1
    omega

/-! ## Decimals -/

/-- What begins with a digit is no word. -/
theorem map_lowerAscii_ne {c : Char} (digit : isDigit c = true) (cs : List Char) {word : List Char}
    (letter : Stops word) : (c :: cs).map lowerAscii ≠ word := by
  rintro rfl
  have small := toNat_of_isDigit digit
  have same : lowerAscii c = c := (lowerAscii_eq_iff (by omega)).2 rfl
  have first : c ∈ ((c :: cs).map lowerAscii).head? := by
    rw [List.map_cons, same]
    rfl
  have := letter c first
  rw [digit] at this
  cases this

/-- The digits behind a point, if a text begins with one, and what follows them. -/
def decimals : List Char → List Char × List Char
  | '.' :: ds => (ds.takeWhile isDigit, ds.dropWhile isDigit)
  | ds => ([], ds)

/-- A text begins with a digit and is read, after whatever sign, as a decimal of this value. It has a
point or an exponent, so it is not the text of an integer. -/
structure Spells (cs : List Char) (r : ℚ) : Prop where
  begins : ∃ c rest, cs = c :: rest ∧ isDigit c = true
  marked : '.' ∈ cs ∨ 'e' ∈ cs
  decimal : ∃ d : Decimal, d.value = r ∧
    ∀ negative, readMagnitude? negative cs = some (ofDecimal negative d.digits d.exponent)

section Parts

variable (digits : ∀ c ∈ whole, isDigit c = true) (nonempty : whole ≠ [])

include digits nonempty

/-- Digits in front are cut off where they end, and then those behind a point. -/
theorem readMagnitude_append (negative : Bool) (stops : Stops rest) :
    readMagnitude? negative (whole ++ rest) = (readExponent? (decimals rest).2).map fun e =>
      ofDecimal negative (digitsValue (whole ++ (decimals rest).1)) (e - (decimals rest).1.length) := by
  obtain ⟨span, left⟩ := span_digits digits stops
  obtain ⟨c, cs, rfl⟩ := List.exists_cons_of_ne_nil nonempty
  have word {w : List Char} (letter : Stops w) : ((c :: cs) ++ rest).map lowerAscii ≠ w :=
    map_lowerAscii_ne (digits c List.mem_cons_self) _ letter
  have inf : Stops "inf".toList := .cons rfl _
  have infinity : Stops "infinity".toList := .cons rfl _
  have nan : Stops "nan".toList := .cons rfl _
  unfold readMagnitude?
  dsimp only
  rw [if_neg (not_or.2 ⟨word inf, word infinity⟩), if_neg (word nan), span, left]
  exact if_neg fun none => Bool.false_ne_true none.1

theorem exists_digit_append (rest : List Char) :
    ∃ c cs, whole ++ rest = c :: cs ∧ isDigit c = true := by
  obtain ⟨c, cs, rfl⟩ := List.exists_cons_of_ne_nil nonempty
  exact ⟨c, cs ++ rest, rfl, digits c List.mem_cons_self⟩

/-- Digits with a point among them or behind them, and what follows. -/
theorem spells_point (behind : ∀ c ∈ fraction, isDigit c = true) (stops : Stops rest) {e : Int}
    (exponent : readExponent? rest = some e) :
    Spells (whole ++ '.' :: (fraction ++ rest))
      (digitsValue (whole ++ fraction) * 10 ^ (e - fraction.length)) := by
  obtain ⟨span, left⟩ := span_digits behind stops
  have point : Stops ('.' :: (fraction ++ rest)) := .cons rfl _
  refine ⟨exists_digit_append digits nonempty _, .inl (by simp),
    ⟨digitsValue (whole ++ fraction), e - fraction.length⟩, rfl, fun negative => ?_⟩
  rw [readMagnitude_append digits nonempty negative point, decimals, span, left, exponent,
    Option.map_some]

/-- Digits around a point and nothing else. -/
theorem spells_fixed (behind : ∀ c ∈ fraction, isDigit c = true) :
    Spells (whole ++ '.' :: fraction)
      (digitsValue (whole ++ fraction) * 10 ^ (-(fraction.length : Int))) := by
  have none : Stops [] := fun c hc => by cases hc
  have point := spells_point digits nonempty behind none (e := 0) rfl
  rwa [List.append_nil, zero_sub] at point

/-- Digits without a point, and an exponent. -/
theorem spells_exponent (e : Int) :
    Spells (whole ++ 'e' :: (decimalInt e).toList) (digitsValue whole * 10 ^ e) := by
  have stops : Stops ('e' :: (decimalInt e).toList) := .cons rfl _
  have parts : decimals ('e' :: (decimalInt e).toList) = ([], 'e' :: (decimalInt e).toList) := rfl
  refine ⟨exists_digit_append digits nonempty _, .inr (by simp), ⟨digitsValue whole, e⟩, rfl,
    fun negative => ?_⟩
  rw [readMagnitude_append digits nonempty negative stops, parts, readExponent_decimalInt,
    Option.map_some, List.append_nil, List.length_nil, Nat.cast_zero, sub_zero]

end Parts

/-! ## Layouts -/

section Layouts

variable {digits : List Char} {e : Int}

/-- Positional notation, the point counted from the first digit. -/
theorem spells_positional (each : ∀ c ∈ digits, isDigit c = true) (nonempty : digits ≠ []) :
    Spells (positional digits (e + digits.length)) (digitsValue digits * 10 ^ e) := by
  have zeros (k : Nat) : ∀ c ∈ List.replicate k '0', isDigit c = true := by
    intro c hc
    rw [List.eq_of_mem_replicate hc]
    rfl
  unfold positional
  split
  · -- All digits are behind the point.
    rename_i before
    generalize count : (-(e + digits.length)).toNat = k
    have fixed := spells_fixed (zeros 1) (List.cons_ne_nil _ _)
      (List.forall_mem_append.2 ⟨zeros k, each⟩)
    rw [digitsValue_zeros, digitsValue_zeros, List.length_append, List.length_replicate] at fixed
    have place : -((k + digits.length : Nat) : Int) = e := by omega
    rwa [place] at fixed
  · split
    · -- All digits are in front of the point, and zeros between them and it.
      rename_i few
      generalize count : (e + digits.length).toNat - digits.length = k
      have fixed := spells_fixed (List.forall_mem_append.2 ⟨each, zeros k⟩) (by simp [nonempty])
        (zeros 1)
      have place : e = k := by omega
      have value : (digitsValue (digits ++ List.replicate k '0' ++ List.replicate 1 '0') : ℚ)
          * 10 ^ (-((List.replicate 1 '0').length : Int)) = digitsValue digits * 10 ^ e := by
        rw [List.append_assoc, List.replicate_append_replicate, digitsValue_append_zeros, place]
        change ((digitsValue digits * 10 ^ (k + 1) : Nat) : ℚ) * 10 ^ (-1 : Int) = _
        rw [zpow_natCast]
        push_cast
        ring
      rwa [value] at fixed
    · -- The point is among the digits.
      rename_i some before
      generalize count : (e + digits.length).toNat = k at before
      have front : ∀ c ∈ digits.take k, isDigit c = true := fun c hc => each c (List.mem_of_mem_take hc)
      have back : ∀ c ∈ digits.drop k, isDigit c = true := fun c hc => each c (List.mem_of_mem_drop hc)
      have fixed := spells_fixed front (by simp [nonempty]; omega) back
      rw [List.take_append_drop, List.length_drop] at fixed
      have place : -((digits.length - k : Nat) : Int) = e := by omega
      rwa [place] at fixed

/-- Scientific notation, with a point behind the first digit if there are more. -/
theorem spells_scientific (each : ∀ c ∈ digits, isDigit c = true) (nonempty : digits ≠ []) :
    Spells (scientific digits (e + digits.length)) (digitsValue digits * 10 ^ e) := by
  unfold scientific
  dsimp only
  rcases digits with _ | ⟨d, _ | ⟨d', ds⟩⟩
  · exact absurd rfl nonempty
  · have exponent := spells_exponent each nonempty (e + [d].length - 1)
    have place : e + [d].length - 1 = e := by
      rw [List.length_singleton]
      push_cast
      ring
    rw [place] at exponent ⊢
    exact exponent
  · obtain ⟨first, others⟩ := List.forall_mem_cons.1 each
    have point := spells_point (List.forall_mem_singleton.2 first) (List.cons_ne_nil d []) others
      (.cons rfl _) (readExponent_decimalInt (e + (d :: d' :: ds).length - 1))
    have place : e + (d :: d' :: ds).length - 1 - (d' :: ds).length = e := by
      rw [List.length_cons]
      push_cast
      ring
    rw [place] at point
    exact point

end Layouts

/-! ## Numbers -/

/-- A sign, or none, is read off in front of a digit. -/
theorem read_signed {cs : List Char} (begins : ∃ c rest, cs = c :: rest ∧ isDigit c = true) :
    read? ((if negative then ['-'] else []) ++ cs) = readMagnitude? negative cs := by
  obtain ⟨c, rest, rfl, digit⟩ := begins
  cases negative with
  | true => rfl
  | false =>
    change read? (c :: rest) = _
    unfold read?
    split
    · rename_i minus
      cases minus
      cases digit
    · rename_i plus
      cases plus
      cases digit
    · rfl

def unsigned (layout : Layout) (x : Binary64) : List Char :=
  if x.isZero then "0.0".toList
  else
    let d := x.shortest
    let digits := Nat.toDigits 10 d.digits
    let place := d.exponent + digits.length
    if layout.leastPlace ≤ place ∧ place ≤ layout.greatestPlace then positional digits place
    else scientific digits place

/-- A printed number is its sign and the text of its absolute value, whichever `layout` is asked
for. -/
theorem toList_write (layout : Layout) (finite : x.isFinite = true) :
    (write layout x).toList = (if x.negative then ['-'] else []) ++ unsigned layout x := by
  have small : x.magnitude < infiniteMagnitude := of_decide_eq_true finite
  have isNan : ¬x.isNan = true := by simpa [Binary64.isNan] using small.le
  have isInfinite : ¬x.isInfinite = true := by simpa [Binary64.isInfinite] using small.ne
  unfold write unsigned
  rw [if_neg isNan]
  dsimp only
  rw [if_neg isInfinite]
  split <;> exact String.toList_ofList

/-- Zero is written as zero, any other number as a decimal of the value of the shortest one. -/
theorem spells_unsigned (layout : Layout) (x : Binary64) :
    Spells (unsigned layout x) (if x.isZero then 0 else x.shortest.value) := by
  have each := isDigit_toDigits x.shortest.digits
  have value : x.shortest.value
      = digitsValue (Nat.toDigits 10 x.shortest.digits) * 10 ^ x.shortest.exponent := by
    rw [digitsValue_toDigits, Decimal.value]
  unfold unsigned
  split
  · have zero : ∀ c ∈ ['0'], isDigit c = true := List.forall_mem_singleton.2 rfl
    have fixed := spells_fixed zero (List.cons_ne_nil _ _) zero
    simpa [digitsValue] using fixed
  · dsimp only
    rw [value]
    split
    · exact spells_positional each Nat.toDigits_ne_nil
    · exact spells_scientific each Nat.toDigits_ne_nil

/-- **A printed number is read as the number it was**, in every layout, if it is finite. -/
theorem read_write (layout : Layout) (finite : x.isFinite = true) :
    read? (write layout x).toList = some x := by
  obtain ⟨begins, -, d, value, read⟩ := spells_unsigned layout x
  rw [toList_write layout finite, read_signed begins, read]
  congr 1
  split at value
  · rename_i isZero
    have none : x.magnitude = 0 := by simpa [Binary64.isZero] using isZero
    have digits : d.digits = 0 := by
      have pos : (0 : ℚ) < 10 ^ d.exponent := by positivity
      simpa [Decimal.value, pos.ne'] using value
    have self : zero x.negative = x := by rw [zero, ← none, ofMagnitude_self]
    rw [ofDecimal, if_pos (.inl digits), self]
  · rename_i notZero
    have nonzero : x.isZero = false := Bool.eq_false_of_not_eq_true notZero
    have rounds := rounds_shortest finite nonzero
    rw [← value] at rounds
    exact ofDecimal_of_rounds finite (significand_ne_zero nonzero) rounds

end Conform.Binary64
