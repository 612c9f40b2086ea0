import Conform.Binary64.Rounding
import Conform.Json.Basic
import Conform.Text.Digits

/-!
# Number literals

What a number literal is worth. Digits are taken into a significand of 64 bits as long as it holds
them; every further digit before the point counts as a place, every further digit behind it not at
all. Without point and exponent, and with room for all digits, the literal is an integer, if need be
a float. Otherwise the significand is rounded to a double precision number and this is multiplied or
divided by a power of ten, which rounds again: the result may be next to the nearest number.
-/

namespace Conform.Json

open Conform.Text

/-- A number literal: the digits before the point, those behind it, and the exponent. -/
structure Literal where
  negative : Bool
  whole : List Char
  fraction : Option (List Char)
  exponent : Option Int

namespace Literal

def greatestSignificand : Nat := 0xFFFFFFFFFFFFFFFF

/-- Takes digits into a significand while it has room; gives it and the digits left over. -/
def absorb (significand : Nat) : List Char → Nat × List Char
  | [] => (significand, [])
  | c :: cs =>
    let next := significand * 10 + (c.toNat - '0'.toNat)
    if next ≤ greatestSignificand then absorb next cs else (significand, c :: cs)

/-- The greatest power of ten that a double precision number comes near to. -/
def greatestPower : Int := 308

def powerOfTen (n : Nat) : Binary64 :=
  .ofRatio false (Nat.pow 10 n) 1

/-- A number times a power of ten, unless that is too great. -/
def scale? (x : Binary64) (exponent : Int) : Option Binary64 :=
  if exponent < -greatestPower then
    if x.isZero then some x else scale? (x.div (powerOfTen 308)) (exponent + 308)
  else if exponent < 0 then some (x.div (powerOfTen exponent.natAbs))
  else if exponent ≤ greatestPower then
    let product := x.mul (powerOfTen exponent.natAbs)
    if product.isInfinite then none else some product
  else if x.isZero then some x
  else none
termination_by (-exponent).toNat
decreasing_by simp only [greatestPower] at *; omega

/-- The float of a significand and an exponent, unless it is too great. -/
def float? (negative : Bool) (significand : Nat) (exponent : Int) : Option Json :=
  (scale? (.ofInt significand) exponent).map fun x => .float (if negative then x.neg else x)

/-- An integer if it is at least minus two to the 63, and not minus zero. -/
def wholeValue (negative : Bool) (significand : Nat) : Json :=
  if !negative then .integer significand
  else if significand = 0 ∨ 0x8000000000000000 < significand then
    .float (Binary64.ofInt significand).neg
  else .integer (-significand)

/-- The value of a literal, unless it is too great for a number. -/
def value? (l : Literal) : Option Json :=
  let (significand, places) := absorb 0 l.whole
  match l.fraction, l.exponent, places with
  | none, none, [] => some (wholeValue l.negative significand)
  | fraction, exponent, places =>
    let behind := fraction.getD []
    let (significand, spare) := absorb significand behind
    let taken : Int := behind.length - spare.length
    float? l.negative significand (places.length - taken + exponent.getD 0)

end Literal

end Conform.Json
