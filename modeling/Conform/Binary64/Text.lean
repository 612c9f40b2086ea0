import Conform.Binary64.Shortest
import Conform.Text.Digits
import Conform.Text.Split

/-!
# Double precision numbers as text

Printing with the fewest digits that read back, in one of two layouts: positional while the point
stays near the digits, scientific beyond. A layout is a record, so that the two writers of this
library (quoted values and document numbers) differ in data only. Reading accepts an optional sign,
digits with an optional point among, before or behind them, an optional exponent, and the names of
infinity and of the number that is not a number in any case.
-/

namespace Conform.Binary64

open Conform.Text

/-- Where positional notation ends and how the special values are spelled. -/
structure Layout where
  /-- The least place of the point, counted from the first digit, that is written positionally. -/
  leastPlace : Int
  /-- The greatest such place. -/
  greatestPlace : Int
  nan : String
  infinity : String

/-- The digits with a point at a place, which may lie outside of them. A whole number keeps one
digit behind the point. -/
def positional (digits : List Char) (place : Int) : List Char :=
  if place ≤ 0 then "0.".toList ++ List.replicate (-place).toNat '0' ++ digits
  else if digits.length ≤ place.toNat then
    digits ++ List.replicate (place.toNat - digits.length) '0' ++ ".0".toList
  else digits.take place.toNat ++ '.' :: digits.drop place.toNat

/-- One digit, a point and the others, and the exponent of the first. -/
def scientific (digits : List Char) (place : Int) : List Char :=
  let mantissa := match digits with
    | [] => []
    | [d] => [d]
    | d :: ds => d :: '.' :: ds
  mantissa ++ 'e' :: (decimalInt (place - 1)).toList

def write (layout : Layout) (x : Binary64) : String :=
  if x.isNan then layout.nan
  else
    let sign := if x.negative then ['-'] else []
    if x.isInfinite then String.ofList (sign ++ layout.infinity.toList)
    else if x.isZero then String.ofList (sign ++ "0.0".toList)
    else
      let d := x.shortest
      let digits := Nat.toDigits 10 d.digits
      let place := d.exponent + digits.length
      let body := if layout.leastPlace ≤ place ∧ place ≤ layout.greatestPlace
        then positional digits place else scientific digits place
      String.ofList (sign ++ body)

/-- The layout of numbers inside quoted values: positional from `0.0001` to below `10 ^ 16`. -/
def Layout.inspected : Layout := ⟨-3, 16, "NaN", "inf"⟩

/-- The layout of numbers in documents: positional from `0.00001` to below `10 ^ 16`. -/
def Layout.documented : Layout := ⟨-4, 16, ".nan", ".inf"⟩

/-- The value of digits already known to be decimal. -/
def digitsValue (cs : List Char) : Nat :=
  cs.foldl (fun n c => n * 10 + (c.toNat - '0'.toNat)) 0

/-- Reads `e` and a signed number of at least one digit, or nothing. -/
def readExponent? : List Char → Option Int
  | [] => some 0
  | c :: cs =>
    if c = 'e' ∨ c = 'E' then
      let body := match cs with
        | '+' :: ds => ds
        | '-' :: ds => ds
        | ds => ds
      if body.isEmpty ∨ !body.all isDigit then none
      else if cs.head? = some '-' then some (-(digitsValue body : Int)) else some (digitsValue body)
    else none

/-- Reads a number without a sign and gives it the sign that was read before. -/
def readMagnitude? (negative : Bool) (cs : List Char) : Option Binary64 :=
  let word := cs.map lowerAscii
  if word = "inf".toList ∨ word = "infinity".toList then some (infinity negative)
  else if word = "nan".toList then some (if negative then nan.neg else nan)
  else
    let whole := cs.takeWhile isDigit
    let rest := cs.dropWhile isDigit
    let (fraction, rest) := match rest with
      | '.' :: ds => (ds.takeWhile isDigit, ds.dropWhile isDigit)
      | ds => ([], ds)
    if whole.isEmpty ∧ fraction.isEmpty then none
    else (readExponent? rest).map fun e =>
      ofDecimal negative (digitsValue (whole ++ fraction)) (e - fraction.length)

/-- The number a text writes, correctly rounded. -/
def read? : List Char → Option Binary64
  | '-' :: cs => readMagnitude? true cs
  | '+' :: cs => readMagnitude? false cs
  | cs => readMagnitude? false cs

end Conform.Binary64
