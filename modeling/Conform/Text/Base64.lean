import Conform.Text.Digits

/-!
# Base64

Bytes as characters of six bits each. Two forms are read: the standard alphabet, filled up with
equals signs to a multiple of four characters, and the alphabet that is safe in URLs and file
names, never filled up. In both the bits of the last character that no byte needs have to be zero,
so that a byte sequence has one spelling. A refusal tells the offending character and its place.
-/

namespace Conform.Text.Base64

inductive Fault where
  /-- A character outside of the alphabet, or an equals sign out of place. -/
  | symbol (byte : UInt8) (offset : Nat)
  /-- A single character is left over. -/
  | length (count : Nat)
  /-- The last character has bits set that no byte needs. -/
  | lastSymbol (byte : UInt8) (offset : Nat)
  /-- Too many or too few equals signs. -/
  | padding
deriving DecidableEq

def Fault.message : Fault → String
  | .symbol byte offset =>
    "Invalid symbol " ++ decimal byte.toNat ++ ", offset " ++ decimal offset ++ "."
  | .length count => "Invalid input length: " ++ decimal count
  | .lastSymbol byte offset =>
    "Invalid last symbol " ++ decimal byte.toNat ++ ", offset " ++ decimal offset ++ "."
  | .padding => "Invalid padding"

inductive Form where
  | standard
  | urlSafe
deriving DecidableEq

def Form.value? (form : Form) (b : UInt8) : Option Nat :=
  let n := b.toNat
  if 65 ≤ n ∧ n ≤ 90 then some (n - 65)
  else if 97 ≤ n ∧ n ≤ 122 then some (n - 97 + 26)
  else if 48 ≤ n ∧ n ≤ 57 then some (n - 48 + 52)
  else match form with
    | .standard => if n = 43 then some 62 else if n = 47 then some 63 else none
    | .urlSafe => if n = 45 then some 62 else if n = 95 then some 63 else none

def pad : UInt8 := 61

/-- The bytes of whole groups of four characters; `offset` is the place of the first one. -/
def decodeGroups (form : Form) (offset : Nat) : List UInt8 → Except Fault (List UInt8)
  | a :: b :: c :: d :: rest =>
    match form.value? a, form.value? b, form.value? c, form.value? d with
    | some x, some y, some z, some w =>
      (decodeGroups form (offset + 4) rest).map fun bytes =>
        UInt8.ofNat (x * 4 + y / 16) :: UInt8.ofNat (y * 16 + z / 4) :: UInt8.ofNat (z * 64 + w)
          :: bytes
    | none, _, _, _ => .error (.symbol a offset)
    | _, none, _, _ => .error (.symbol b (offset + 1))
    | _, _, none, _ => .error (.symbol c (offset + 2))
    | _, _, _, none => .error (.symbol d (offset + 3))
  | _ => .ok []

/-- Reads the characters of the last group; `offset` is the place of the group, `index` the place
within it. Gives the six-bit values, the last character and the number of equals signs. -/
def readLast (form : Form) (offset : Nat) :
    Nat → List UInt8 → List Nat × UInt8 × Nat → Except Fault (List Nat × UInt8 × Nat)
  | _, [], found => .ok found
  | index, b :: bs, (values, last, pads) =>
    if b = pad then
      if index < 2 then .error (.symbol b (offset + index))
      else readLast form offset (index + 1) bs (values, last, pads + 1)
    else if 0 < pads then .error (.symbol pad (offset + index - pads))
    else match form.value? b with
      | none => .error (.symbol b (offset + index))
      | some v => readLast form offset (index + 1) bs (values ++ [v], b, pads)

/-- The bytes of the values of a last group, and the bits that no byte needs. -/
def lastBytes : List Nat → List UInt8 × Nat
  | [x, y] => ([UInt8.ofNat (x * 4 + y / 16)], y % 16)
  | [x, y, z] => ([UInt8.ofNat (x * 4 + y / 16), UInt8.ofNat (y * 16 + z / 4)], z % 4)
  | [x, y, z, w] =>
    ([UInt8.ofNat (x * 4 + y / 16), UInt8.ofNat (y * 16 + z / 4), UInt8.ofNat (z * 64 + w)], 0)
  | _ => ([], 0)

def decodeLast (form : Form) (offset : Nat) (group : List UInt8) : Except Fault (List UInt8) := do
  let (values, last, pads) ← readLast form offset 0 group ([], 0, 0)
  if values.length < 2 then throw (.length (offset + values.length))
  let fits := match form with
    | .standard => (values.length + pads) % 4 == 0
    | .urlSafe => pads == 0
  if !fits then throw .padding
  let (bytes, spare) := lastBytes values
  if spare ≠ 0 then throw (.lastSymbol last (offset + values.length - 1))
  return bytes

/-- The bytes of a text. A last character that would stand alone in its group is looked at first;
then the groups from the left. -/
def decode (form : Form) (text : List UInt8) : Except Fault (List UInt8) :=
  match text.getLast? with
  | none => .ok []
  | some last =>
    if text.length % 4 = 1 ∧ last ≠ pad ∧ form.value? last = none then
      .error (.symbol last (text.length - 1))
    else do
      let offset := (text.length - 1) / 4 * 4
      let front ← decodeGroups form 0 (text.take offset)
      let back ← decodeLast form offset (text.drop offset)
      return front ++ back

end Conform.Text.Base64
