/-!
# Punycode

Labels beyond ASCII written in ASCII. The ASCII characters come first; then, in the order of their
code points, the others are inserted, each as the distance from the insertion before, written with
digits whose thresholds adapt to the distances seen.
-/

namespace Conform.Uri.Punycode

/-- The digit of a value below thirty-six: letters before numerals. -/
def digitOf (n : Nat) : Char :=
  if n < 26 then Char.ofNat ('a'.toNat + n) else Char.ofNat ('0'.toNat + n - 26)

def valueOf? (c : Char) : Option Nat :=
  if 'a' ≤ c ∧ c ≤ 'z' then some (c.toNat - 'a'.toNat)
  else if 'A' ≤ c ∧ c ≤ 'Z' then some (c.toNat - 'A'.toNat)
  else if '0' ≤ c ∧ c ≤ '9' then some (c.toNat - '0'.toNat + 26)
  else none

/-- The threshold of the digit at position `k`, which counts in steps of thirty-six. -/
def threshold (k bias : Nat) : Nat :=
  if k ≤ bias then 1 else if bias + 26 ≤ k then 26 else k - bias

/-- Divides a distance down to the range of one digit, counting thirty-six per division. -/
def settle (distance k : Nat) : Nat × Nat :=
  if 455 < distance then settle (distance / 35) (k + 36) else (distance, k)
termination_by distance
decreasing_by exact Nat.div_lt_self (by omega) (by omega)

/-- The bias after a distance, given how many characters are in place. -/
def adapt (distance placed : Nat) (first : Bool) : Nat :=
  let halved := if first then distance / 700 else distance / 2
  let (distance, k) := settle (halved + halved / placed) 0
  k + 36 * distance / (distance + 38)

/-- The digits of a distance. `fuel` bounds their number. -/
def distanceDigits (bias : Nat) : Nat → Nat → Nat → List Char
  | 0, _, _ => []
  | fuel + 1, k, q =>
    let t := threshold k bias
    if q < t then [digitOf q]
    else
      digitOf (t + (q - t) % (36 - t)) :: distanceDigits bias fuel (k + 36) ((q - t) / (36 - t))

/-- What encoding carries along: the output, the distance since the last insertion, the bias, and
how many characters are in place. -/
structure Progress where
  output : List Char
  distance : Nat
  bias : Nat
  placed : Nat

/-- Passes one character of the label while the characters of code point `m` are inserted. -/
def pass (basic m : Nat) (p : Progress) (c : Char) : Progress :=
  if c.toNat < m then { p with distance := p.distance + 1 }
  else if c.toNat = m then
    { output := p.output ++ distanceDigits p.bias 40 36 p.distance
      distance := 0
      bias := adapt p.distance (p.placed + 1) (p.placed == basic)
      placed := p.placed + 1 }
  else p

/-- Inserts the characters of the given code points, in ascending order; `n` is the least code
point that may come next. -/
def insertAll (label : List Char) (basic : Nat) : List Nat → Nat → Progress → Progress
  | [], _, p => p
  | m :: ms, n, p =>
    let p := { p with distance := p.distance + (m - n) * (p.placed + 1) }
    let p := label.foldl (pass basic m) p
    insertAll label basic ms (m + 1) { p with distance := p.distance + 1 }

/-- Inserts a number into an ascending list unless it is there. -/
def insertNumber (n : Nat) : List Nat → List Nat
  | [] => [n]
  | m :: ms => if n < m then n :: m :: ms else if n = m then m :: ms else m :: insertNumber n ms

def encode (label : List Char) : List Char :=
  let basic := label.filter fun c => decide (c.toNat < 0x80)
  let others := (label.filter fun c => decide (0x80 ≤ c.toNat)).foldl
    (fun ns c => insertNumber c.toNat ns) []
  let start := if basic.isEmpty then [] else basic ++ ['-']
  (insertAll label basic.length others 0x80 ⟨start, 0, 72, basic.length⟩).output

/-- Reads the digits of a distance and adds it to `i`; gives the sum and the rest. -/
def readDistance? (bias : Nat) : List Char → Nat → Nat → Nat → Option (Nat × List Char)
  | [], _, _, _ => none
  | c :: cs, k, weight, i =>
    (valueOf? c).bind fun d =>
      let i := i + d * weight
      let t := threshold k bias
      if d < t then some (i, cs) else readDistance? bias cs (k + 36) (weight * (36 - t)) i

/-- Inserts the characters that the digits describe. `fuel` bounds their number. -/
def decodeFrom? : Nat → List Char → List Char → Nat → Nat → Nat → Option (List Char)
  | _, [], output, _, _, _ => some output
  | 0, _ :: _, _, _, _, _ => none
  | fuel + 1, digits, output, n, i, bias =>
    (readDistance? bias digits 36 1 i).bind fun (j, rest) =>
      let size := output.length + 1
      let n := n + j / size
      let place := j % size
      if n.isValidChar then
        decodeFrom? fuel rest (output.take place ++ Char.ofNat n :: output.drop place) n (place + 1)
          (adapt (j - i) size (i == 0))
      else none

def decode? (cs : List Char) : Option (List Char) :=
  let tail := (cs.reverse.takeWhile (· != '-')).reverse
  let basic := cs.take (cs.length - tail.length - 1)
  decodeFrom? (tail.length + 1) tail basic 0x80 0 72

end Conform.Uri.Punycode
