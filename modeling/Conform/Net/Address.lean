import Conform.Text.Digits
import Conform.Text.Split

/-!
# Network addresses

Version 4 addresses are four octets, version 6 addresses eight groups of sixteen bits. Reading and
printing follow the usual textual forms: octets in decimal without superfluous zeros, groups in
hexadecimal, the longest run of zero groups shortened to `::`, and an embedded version 4 address
where version 6 allows one.

Addresses are those of `IpAddr`; networks are read as `to_ip_mask` reads them.
-/

namespace Conform.Net

open Conform.Text

/-- An address of either version, by its octets or groups from left to right. -/
inductive Address where
  | v4 (octets : Vector UInt8 4)
  | v6 (groups : Vector UInt16 8)
deriving DecidableEq

namespace Address

/-- Version 4 before version 6; within a version by the octets or groups from the left. -/
def order : Address → Address → Ordering
  | .v4 a, .v4 b => compare a.toList b.toList
  | .v4 _, .v6 _ => .lt
  | .v6 _, .v4 _ => .gt
  | .v6 a, .v6 b => compare a.toList b.toList

instance : Ord Address := ⟨order⟩

/-- The number of bits, which bounds the length of a network's leading part. -/
def width : Address → Nat
  | .v4 _ => 32
  | .v6 _ => 128

/-! ## Printing -/

/-- The octets with points between them. -/
def dotted (octets : List UInt8) : String :=
  join "." (octets.map fun o => decimal o.toNat)

/-- The start and length of the first of the longest runs of zeros that begin at `i` or later;
`best` is the longest run before. -/
def longestZeroRun : List UInt16 → Nat → Nat × Nat → Nat × Nat
  | [], _, best => best
  | g :: gs, i, best =>
    let run := ((g :: gs).takeWhile (· == 0)).length
    longestZeroRun gs (i + 1) (if best.2 < run then (i, run) else best)

/-- Groups in hexadecimal with colons between them. -/
def colons (groups : List UInt16) : String :=
  join ":" (groups.map fun g => hex g.toNat)

/-- Groups with the first of the longest runs of at least two zeros written `::`. -/
def compressed (groups : List UInt16) : String :=
  let (start, run) := longestZeroRun groups 0 (0, 0)
  if run < 2 then colons groups
  else colons (groups.take start) ++ "::" ++ colons (groups.drop (start + run))

def groupOctets (g : UInt16) : List UInt8 :=
  [UInt8.ofNat (g.toNat / 256), UInt8.ofNat (g.toNat % 256)]

/-- The address as text. A version 6 address that maps a version 4 address shows the latter. -/
def text : Address → String
  | .v4 octets => dotted octets.toList
  | .v6 groups =>
    match groups.toList with
    | [0, 0, 0, 0, 0, 0xFFFF, g, h] => "::ffff:" ++ dotted (groupOctets g ++ groupOctets h)
    | gs => compressed gs

/-! ## Reading -/

/-- Reads digits of a base from the front: at least one, at most `limit`, no leading zero unless it
is the only digit or zeros are allowed, and a value below `bound`. -/
def readNumber? (base limit bound : Nat) (leadingZeros : Bool) (cs : List Char) :
    Option (Nat × List Char) :=
  let digits := cs.takeWhile fun c => (digitIn? base c).isSome
  if digits.length = 0 ∨ limit < digits.length then none
  else if !leadingZeros && digits.length != 1 && digits.head? == some '0' then none
  else (foldDigits? base 0 digits).bind fun n =>
    if n < bound then some (n, cs.drop digits.length) else none

/-- Reads an octet, after a point unless it is the first. -/
def readOctet? (first : Bool) : List Char → Option (UInt8 × List Char)
  | cs =>
    let body := if first then some cs else if cs.head? = some '.' then some cs.tail else none
    body.bind fun cs => (readNumber? 10 3 256 false cs).map fun (n, rest) => (UInt8.ofNat n, rest)

def readV4Front? (cs : List Char) : Option (Vector UInt8 4 × List Char) := do
  let (a, cs) ← readOctet? true cs
  let (b, cs) ← readOctet? false cs
  let (c, cs) ← readOctet? false cs
  let (d, cs) ← readOctet? false cs
  return (#v[a, b, c, d], cs)

def groupOf (a b : UInt8) : UInt16 :=
  UInt16.ofNat (a.toNat * 256 + b.toNat)

/-- Drops the colon in front of every group but the first. -/
def dropColon? (first : Bool) (cs : List Char) : Option (List Char) :=
  if first then some cs else if cs.head? = some ':' then some cs.tail else none

/-- Reads up to `limit` groups from the front, with colons between them. A version 4 address counts
as two groups, needs room for two, and ends the groups; the flag tells that one was read. -/
def readGroups (first : Bool) : Nat → List Char → List UInt16 × Bool × List Char
  | 0, cs => ([], false, cs)
  | limit + 1, cs =>
    match dropColon? first cs with
    | none => ([], false, cs)
    | some body =>
      match if limit = 0 then none else readV4Front? body with
      | some (octets, rest) =>
        ([groupOf octets[0] octets[1], groupOf octets[2] octets[3]], true, rest)
      | none =>
        match readNumber? 16 4 65536 true body with
        | none => ([], false, cs)
        | some (n, rest) =>
          let (groups, embedded, rest) := readGroups false limit rest
          (UInt16.ofNat n :: groups, embedded, rest)

/-- The address of exactly eight groups. -/
def ofGroups? (groups : List UInt16) : Option Address :=
  if h : groups.length = 8 then some (.v6 ⟨groups.toArray, by simpa using h⟩) else none

/-- Reads a version 6 address that takes the whole text. -/
def readV6? (cs : List Char) : Option Address :=
  let (head, embedded, rest) := readGroups true 8 cs
  if head.length = 8 then if rest.isEmpty then ofGroups? head else none
  else if embedded then none
  else match rest with
    | ':' :: ':' :: rest =>
      let (tail, _, rest) := readGroups true (7 - head.length) rest
      if rest.isEmpty then
        ofGroups? (head ++ List.replicate (8 - head.length - tail.length) 0 ++ tail)
      else none
    | _ => none

/-- Reads a version 4 address that takes the whole text. -/
def readV4? (cs : List Char) : Option Address :=
  match readV4Front? cs with
  | some (octets, []) => some (.v4 octets)
  | _ => none

/-- The address a text writes. -/
def read? (cs : List Char) : Option Address :=
  (readV4? cs).orElse fun _ => readV6? cs

end Address

/-- A network: an address and the number of leading bits that its members share. -/
structure Network where
  address : Address
  length : UInt8
deriving DecidableEq

namespace Network

/-- By address, then by length. -/
def order (a b : Network) : Ordering :=
  (compare a.address b.address).then (compare a.length b.length)

instance : Ord Network := ⟨order⟩

/-- The address, a slash and the length. -/
def text (n : Network) : String :=
  n.address.text ++ "/" ++ decimal n.length.toNat

/-- The network a text writes (`to_ip_mask`): an address alone, which is its own network, or with a
length that the address has bits for. -/
def read? (cs : List Char) : Option Network :=
  match cut '/' cs with
  | none => (Address.read? cs).map fun a => ⟨a, UInt8.ofNat a.width⟩
  | some (before, after) =>
    (Address.read? before).bind fun a =>
      (readUnsigned? 10 after).bind fun n =>
        if n ≤ a.width then some ⟨a, UInt8.ofNat n⟩ else none

end Network

end Conform.Net
