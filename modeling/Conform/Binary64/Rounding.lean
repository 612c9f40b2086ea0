import Conform.Binary64.Basic

/-!
# Rounding to double precision

The double precision number nearest to a ratio of natural numbers; of two that are equally near,
the one with the even significand. Whole numbers, decimal literals, products and quotients are
ratios, so each of these operations is exact arithmetic followed by one rounding.
-/

namespace Conform.Binary64

/-- A natural number times a power of two, as a numerator and a denominator. -/
def scaled (n : Nat) (q : Int) : Nat × Nat :=
  if 0 ≤ q then (n * Nat.pow 2 q.toNat, 1) else (n, Nat.pow 2 (-q).toNat)

/-- The whole number nearest to a ratio; a half goes to the even neighbour. -/
def divHalfEven (num den : Nat) : Nat :=
  let quotient := num / den
  let rest := 2 * (num % den)
  if rest < den then quotient
  else if den < rest then quotient + 1
  else quotient + quotient % 2

/-- The exponent of the greatest power of two that a positive ratio reaches. -/
def floorLog2 (num den : Nat) : Int :=
  let guess : Int := (Nat.log2 num : Int) - Nat.log2 den
  let (n, d) := scaled den guess
  if num * d < n then guess - 1 else guess

/-- The magnitude of the number nearest to a positive ratio. The significand has fifty-three bits,
or fewer at the smallest exponent; a carry out of it runs into the exponent field by itself. -/
def magnitudeOfRatio (num den : Nat) : Nat :=
  let q := max (-1074) (floorLog2 num den - 52)
  let (scale, divisor) := scaled 1 q
  let significand := divHalfEven (num * divisor) (den * scale)
  min infiniteMagnitude ((q + 1074).toNat * hiddenBit + significand)

/-- The number nearest to a ratio of the given sign. -/
def ofRatio (negative : Bool) (num den : Nat) : Binary64 :=
  if num = 0 then zero negative else ofMagnitude negative (magnitudeOfRatio num den)

/-- The number nearest to a whole number: the cast `as f64`. -/
def ofInt (i : Int) : Binary64 :=
  ofRatio (decide (i < 0)) i.natAbs 1

/-- The number nearest to `digits * 10 ^ exponent`. Beyond the range of the format the power is not
worked out: so many digits before the point, or zeros after it, decide the result. -/
def ofDecimal (negative : Bool) (digits : Nat) (exponent : Int) : Binary64 :=
  let places : Int := (Nat.toDigits 10 digits).length
  if digits = 0 ∨ exponent + places < -400 then zero negative
  else if 400 < exponent + places then infinity negative
  else if 0 ≤ exponent then ofRatio negative (digits * Nat.pow 10 exponent.toNat) 1
  else ofRatio negative digits (Nat.pow 10 (-exponent).toNat)

def mul (x y : Binary64) : Binary64 :=
  let (num, den) := scaled (x.significand * y.significand) (x.exponent + y.exponent)
  ofRatio (x.negative != y.negative) num den

/-- The quotient of two finite numbers, the divisor not zero, rounded. -/
def div (x y : Binary64) : Binary64 :=
  let (num, den) := scaled x.significand (x.exponent - y.exponent)
  ofRatio (x.negative != y.negative) num (den * y.significand)

end Conform.Binary64
