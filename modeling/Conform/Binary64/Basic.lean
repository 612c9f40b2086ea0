/-!
# Double precision numbers

A double precision number is its 64 bits: a sign, eleven bits of exponent and fifty-two of
fraction. Everything here is arithmetic on natural numbers. The order is the total one that tells
apart the two zeros and puts every number that is not a number beyond the infinities of its sign;
`same` is the numeric equality, under which the zeros are equal and such a number differs from
itself.
-/

namespace Conform

/-- A double precision number, by its bits. -/
structure Binary64 where
  bits : UInt64
deriving DecidableEq

namespace Binary64

/-- The weight of the sign bit. -/
def signBit : Nat := 0x8000000000000000

/-- The weight of the leading bit of a significand, which the bits leave out. -/
def hiddenBit : Nat := 0x10000000000000

def negative (x : Binary64) : Bool :=
  decide (signBit ≤ x.bits.toNat)

/-- The bits below the sign: they grow with the absolute value. -/
def magnitude (x : Binary64) : Nat :=
  x.bits.toNat % signBit

/-- The magnitude of the infinities. -/
def infiniteMagnitude : Nat := 0x7FF * hiddenBit

/-- The number of a sign and a magnitude. -/
def ofMagnitude (negative : Bool) (magnitude : Nat) : Binary64 :=
  ⟨UInt64.ofNat (magnitude + if negative then signBit else 0)⟩

def zero (negative : Bool) : Binary64 := ofMagnitude negative 0

def infinity (negative : Bool) : Binary64 := ofMagnitude negative infiniteMagnitude

/-- The positive quiet number that is not a number. -/
def nan : Binary64 := ⟨0x7FF8000000000000⟩

def isNan (x : Binary64) : Bool :=
  decide (infiniteMagnitude < x.magnitude)

def isInfinite (x : Binary64) : Bool :=
  x.magnitude == infiniteMagnitude

def isFinite (x : Binary64) : Bool :=
  decide (x.magnitude < infiniteMagnitude)

def isZero (x : Binary64) : Bool :=
  x.magnitude == 0

def neg (x : Binary64) : Binary64 :=
  ofMagnitude (!x.negative) x.magnitude

/-- The whole number whose product with `2 ^ exponent` is the absolute value of a finite number. -/
def significand (x : Binary64) : Nat :=
  if x.magnitude < hiddenBit then x.magnitude else x.magnitude % hiddenBit + hiddenBit

/-- The power of two that goes with `significand`. -/
def exponent (x : Binary64) : Int :=
  if x.magnitude < hiddenBit then -1074 else (x.magnitude / hiddenBit : Nat) - 1075

/-- The place of a number in the total order, as an integer: what `f64::total_cmp` compares. -/
def rank (x : Binary64) : Int :=
  if x.negative then -(x.magnitude : Int) - 1 else x.magnitude

/-- The total order on the bits. -/
instance : Ord Binary64 where
  compare x y := compare x.rank y.rank

/-- Numeric equality. -/
def same (x y : Binary64) : Bool :=
  !x.isNan && !y.isNan && (x == y || (x.isZero && y.isZero))

end Binary64

end Conform
