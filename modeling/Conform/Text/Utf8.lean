/-!
# UTF-8

Text as bytes and bytes as text. `decode` accepts the well formed byte sequences only: the
shortest form of each scalar value, no surrogates, nothing beyond U+10FFFF.
-/

namespace Conform.Text.Utf8

def encodeChar (c : Char) : List UInt8 :=
  let n := c.toNat
  if n < 0x80 then [UInt8.ofNat n]
  else if n < 0x800 then [UInt8.ofNat (0xC0 + n / 64), UInt8.ofNat (0x80 + n % 64)]
  else if n < 0x10000 then
    [UInt8.ofNat (0xE0 + n / 4096), UInt8.ofNat (0x80 + n / 64 % 64), UInt8.ofNat (0x80 + n % 64)]
  else
    [UInt8.ofNat (0xF0 + n / 262144), UInt8.ofNat (0x80 + n / 4096 % 64),
     UInt8.ofNat (0x80 + n / 64 % 64), UInt8.ofNat (0x80 + n % 64)]

def encode (cs : List Char) : List UInt8 :=
  cs.flatMap encodeChar

/-- The six payload bits of a continuation byte. -/
def continuation? (b : UInt8) : Option Nat :=
  if 0x80 ≤ b.toNat ∧ b.toNat < 0xC0 then some (b.toNat - 0x80) else none

/-- The character of a code point that its byte form does not overstate: at least `least` and a
scalar value. -/
def scalar? (least n : Nat) : Option Char :=
  if h : n.isValidChar then
    if least ≤ n then some (Char.ofNatAux n h) else none
  else none

/-- The text of a byte sequence, unless it is ill formed. -/
def decode : List UInt8 → Option (List Char)
  | [] => some []
  | b0 :: rest0 =>
    let n0 := b0.toNat
    if n0 < 0x80 then (decode rest0).map (Char.ofNat n0 :: ·)
    else if n0 < 0xC0 then none
    else match rest0 with
      | [] => none
      | b1 :: rest1 =>
        match continuation? b1 with
        | none => none
        | some n1 =>
          if n0 < 0xE0 then
            match scalar? 0x80 ((n0 - 0xC0) * 64 + n1) with
            | none => none
            | some c => (decode rest1).map (c :: ·)
          else match rest1 with
            | [] => none
            | b2 :: rest2 =>
              match continuation? b2 with
              | none => none
              | some n2 =>
                if n0 < 0xF0 then
                  match scalar? 0x800 ((n0 - 0xE0) * 4096 + n1 * 64 + n2) with
                  | none => none
                  | some c => (decode rest2).map (c :: ·)
                else match rest2 with
                  | [] => none
                  | b3 :: rest3 =>
                    match continuation? b3 with
                    | none => none
                    | some n3 =>
                      match scalar? 0x10000 ((n0 - 0xF0) * 262144 + n1 * 4096 + n2 * 64 + n3) with
                      | none => none
                      | some c => (decode rest3).map (c :: ·)

def length (cs : List Char) : Nat :=
  (encode cs).length

end Conform.Text.Utf8
