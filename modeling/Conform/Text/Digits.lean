/-!
# Digits and integer literals

Digits in a base up to sixteen, natural numbers written in it, and the reading of integer
literals: an optional sign and then decimal digits alone. The decimal writer is the inverse side
of the reader.
-/

namespace Conform.Text

/-- The value of an ASCII digit or letter as a digit, in bases up to 36. -/
def digitValue? (c : Char) : Option Nat :=
  if '0' ≤ c ∧ c ≤ '9' then some (c.toNat - '0'.toNat)
  else if 'a' ≤ c ∧ c ≤ 'z' then some (c.toNat - 'a'.toNat + 10)
  else if 'A' ≤ c ∧ c ≤ 'Z' then some (c.toNat - 'A'.toNat + 10)
  else none

/-- The value of a digit of the given base. -/
def digitIn? (base : Nat) (c : Char) : Option Nat :=
  (digitValue? c).filter (· < base)

def isDigit (c : Char) : Bool :=
  decide ('0' ≤ c) && decide (c ≤ '9')

def isLetter (c : Char) : Bool :=
  (decide ('a' ≤ c) && decide (c ≤ 'z')) || (decide ('A' ≤ c) && decide (c ≤ 'Z'))

/-- Reads digits of a base after a number already read. -/
def foldDigits? (base : Nat) : Nat → List Char → Option Nat
  | n, [] => some n
  | n, c :: cs =>
    match digitIn? base c with
    | some d => foldDigits? base (n * base + d) cs
    | none => none

/-- The natural number a nonempty run of digits of a base writes. -/
def readNat? (base : Nat) (cs : List Char) : Option Nat :=
  if cs.isEmpty then none else foldDigits? base 0 cs

/-- The integer a literal writes: a sign or none, then at least one digit of the base. -/
def readInt? (base : Nat) : List Char → Option Int
  | '+' :: cs => (readNat? base cs).map Int.ofNat
  | '-' :: cs => (readNat? base cs).map fun n => -(Int.ofNat n)
  | cs => (readNat? base cs).map Int.ofNat

/-- Reads a natural number, a plus sign in front of it allowed. -/
def readUnsigned? (base : Nat) : List Char → Option Nat
  | '+' :: cs => readNat? base cs
  | cs => readNat? base cs

def decimal (n : Nat) : String :=
  String.ofList (Nat.toDigits 10 n)

/-- An integer in decimal, with a minus sign below zero. -/
def decimalInt (i : Int) : String :=
  if i < 0 then String.ofList ('-' :: Nat.toDigits 10 i.natAbs) else decimal i.natAbs

def hex (n : Nat) : String :=
  String.ofList (Nat.toDigits 16 n)

/-- A natural number in decimal, filled with zeros to a width. -/
def padded (width n : Nat) : String :=
  let digits := Nat.toDigits 10 n
  String.ofList (List.replicate (width - digits.length) '0' ++ digits)

end Conform.Text
