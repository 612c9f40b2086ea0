import Conform.Binary64.Rounding

/-!
# The fewest digits that read back

The decimal of fewest digits among those that round to a given double precision number, and of
these the nearest to it. A grid of numbers with `n` digits has a point in the interval that rounds
to the number only if one of the number's two neighbours on that grid lies there, so it is enough
to try the neighbours for one digit, two digits and so on; seventeen always suffice.
-/

namespace Conform.Binary64

structure Decimal where
  digits : Nat
  exponent : Int
deriving DecidableEq

/-- Whether `a / b` lies between the two bounds, which are ratios, the ends included or not. -/
def between (inclusive : Bool) (low high : Nat × Nat) (a b : Nat) : Bool :=
  if inclusive then decide (low.1 * b ≤ a * low.2) && decide (a * high.2 ≤ high.1 * b)
  else decide (low.1 * b < a * low.2) && decide (a * high.2 < high.1 * b)

/-- The interval of the reals that round to a positive finite number, by its ends, and whether
these round to it as well. Below a power of two the neighbour is only half as far away. -/
def interval (x : Binary64) : (Nat × Nat) × (Nat × Nat) × Bool :=
  let m := x.significand
  let q := x.exponent
  let low :=
    if m = hiddenBit ∧ -1074 < q then scaled (4 * m - 1) (q - 2) else scaled (2 * m - 1) (q - 1)
  (low, scaled (2 * m + 1) (q - 1), m % 2 == 0)

/-- A power of ten times a natural number, as a ratio. -/
def tenfold (n : Nat) (e : Int) : Nat × Nat :=
  if 0 ≤ e then (n * Nat.pow 10 e.toNat, 1) else (n, Nat.pow 10 (-e).toNat)

/-- The number of digits of a positive ratio before the point, or minus the number of zeros after
it. `fuel` bounds the search from the guess. -/
def pointPlaceFrom (num den : Nat) : Nat → Int → Int
  | 0, k => k
  | fuel + 1, k =>
    let (a, b) := tenfold 1 k
    if a * den ≤ num * b then pointPlaceFrom num den fuel (k + 1)
    else
      let (a, b) := tenfold 1 (k - 1)
      if num * b < a * den then pointPlaceFrom num den fuel (k - 1) else k

/-- The `k` with `10 ^ (k - 1) ≤ num / den < 10 ^ k`. -/
def pointPlace (num den : Nat) : Int :=
  pointPlaceFrom num den 8 ((floorLog2 num den * 30103) / 100000)

/-- The point of the grid of step `10 ^ s` that reads back, if there is one; of two the nearer. -/
def onGrid? (num den : Nat) (low high : Nat × Nat) (inclusive : Bool) (s : Int) : Option Nat :=
  let (ten, one) := tenfold 1 s
  let below := (num * one) / (den * ten)
  let hit (d : Nat) : Bool :=
    let (a, b) := tenfold d s
    between inclusive low high a b
  match hit below, hit (below + 1) with
  | true, true =>
    if 2 * ((num * one) % (den * ten)) < den * ten then some below else some (below + 1)
  | true, false => some below
  | false, true => some (below + 1)
  | false, false => none

/-- Tries grids of ever more digits. -/
def shortestFrom (num den : Nat) (low high : Nat × Nat) (inclusive : Bool) (k : Int) :
    Nat → Nat → Decimal
  | 0, _ => ⟨0, 0⟩
  | fuel + 1, n =>
    let s := k - n
    match onGrid? num den low high inclusive s with
    | some d => ⟨d, s⟩
    | none => shortestFrom num den low high inclusive k fuel (n + 1)

/-- Moves trailing zeros of the digits into the exponent. -/
def Decimal.strip : Nat → Decimal → Decimal
  | 0, d => d
  | fuel + 1, d =>
    if d.digits ≠ 0 ∧ d.digits % 10 = 0 then strip fuel ⟨d.digits / 10, d.exponent + 1⟩
    else d

/-- The shortest decimal that reads back as the absolute value of a finite number. -/
def shortest (x : Binary64) : Decimal :=
  if x.isZero then ⟨0, 0⟩
  else
    let (num, den) := scaled x.significand x.exponent
    let (low, high, inclusive) := interval x
    (shortestFrom num den low high inclusive (pointPlace num den) 20 1).strip 20

end Conform.Binary64
