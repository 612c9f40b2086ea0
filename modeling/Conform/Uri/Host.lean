import Conform.Net.Address
import Conform.Uri.Domain
import Conform.Uri.Percent

/-!
# Hosts

The host of a URI is a domain name or an address. Under the schemes that the web gives a meaning to,
a host whose last label is a number is a version 4 address in one of its loose forms: up to four
numbers, octal and hexadecimal allowed, the last one filling the remaining octets. Under every other
scheme a name is taken as it is.

These are `Host::parse` and `Host::parse_opaque`.
-/

namespace Conform

/-- Why a text is no URI. -/
inductive Uri.Fault where
  | emptyHost
  | invalidDomain
  | invalidPort
  | invalidV4
  | invalidV6
  | forbiddenCharacter
  /-- There is no scheme. -/
  | relative
deriving DecidableEq

def Uri.Fault.message : Uri.Fault → String
  | .emptyHost => "empty host"
  | .invalidDomain => "invalid international domain name"
  | .invalidPort => "invalid port number"
  | .invalidV4 => "invalid IPv4 address"
  | .invalidV6 => "invalid IPv6 address"
  | .forbiddenCharacter => "invalid domain character"
  | .relative => "relative URL without a base"

namespace Uri

open Conform.Text Conform.Net

/-- A domain name or an address. -/
inductive Host where
  | domain (name : String)
  | address (a : Address)
deriving DecidableEq

namespace Host

/-- The host as it stands in a URI: version 6 addresses in brackets, always in groups. -/
def text : Host → String
  | .domain name => name
  | .address (.v4 octets) => Address.dotted octets.toList
  | .address (.v6 groups) => "[" ++ Address.compressed groups.toList ++ "]"

/-! ## Version 4 addresses in loose form -/

/-- The base of a number and its digits: `0x` introduces hexadecimal, another leading zero octal. -/
def numberBase : List Char → Nat × List Char
  | '0' :: 'x' :: cs => (16, cs)
  | '0' :: 'X' :: cs => (16, cs)
  | '0' :: c :: cs => (8, c :: cs)
  | cs => (10, cs)

/-- The number of a part of an address. The mark of a base without digits is zero. -/
def partNumber? (cs : List Char) : Option Nat :=
  if cs.isEmpty then none
  else
    let (base, digits) := numberBase cs
    foldDigits? base 0 digits

/-- Whether the last label, an empty one after it not counted, is a number. -/
def endsInNumber (labels : List (List Char)) : Bool :=
  let last := match labels.reverse with
    | [] :: last :: _ => last
    | last :: _ => last
    | [] => []
  !last.isEmpty && (last.all isDigit || (partNumber? last).isSome)

def octetsOf (n : Nat) : Vector UInt8 4 :=
  #v[UInt8.ofNat (n / 16777216 % 256), UInt8.ofNat (n / 65536 % 256), UInt8.ofNat (n / 256 % 256),
     UInt8.ofNat (n % 256)]

/-- The address of the numbers: all but the last are octets, the last fills the rest. -/
def addressOfNumbers? (numbers : List Nat) : Option Address :=
  match numbers.reverse with
  | [] => none
  | last :: front =>
    let front := front.reverse
    if 4 < numbers.length ∨ front.any (fun n => decide (255 < n))
        ∨ Nat.pow 256 (4 - front.length) ≤ last then none
    else
      let high := front.foldl (fun n o => n * 256 + o) 0 * Nat.pow 256 (4 - front.length)
      some (.v4 (octetsOf (high + last)))

/-- The address of the labels of a loose version 4 address; an empty last label is dropped. -/
def looseV4? (labels : List (List Char)) : Option Address :=
  let labels := if labels.getLast? = some [] then labels.dropLast else labels
  (labels.mapM partNumber?).bind addressOfNumbers?

/-! ## Reading -/

def readBracketed (cs : List Char) : Except Fault Host :=
  if 2 ≤ cs.length ∧ cs.getLast? = some ']' then
    match Address.readV6? (cs.tail.dropLast) with
    | some a => .ok (.address a)
    | none => .error .invalidV6
  else .error .invalidV6

/-- The host under a scheme that the web gives a meaning to: `Host::parse`. -/
def readFolded (cs : List Char) : Except Fault Host :=
  if cs.head? = some '[' then readBracketed cs
  else match domainToAscii? (unescape cs) with
    | none => .error .invalidDomain
    | some [] => .error .emptyHost
    | some name =>
      let labels := pieces '.' name
      if endsInNumber labels then
        match looseV4? labels with
        | some a => .ok (.address a)
        | none => .error .invalidV4
      else .ok (.domain (String.ofList name))

/-- The characters that no host may have, whatever the scheme. -/
def forbidden : List Char :=
  ['\x00', '\t', '\n', '\r', ' ', '#', '/', ':', '<', '>', '?', '@', '[', '\\', ']', '^', '|']

/-- The host under any other scheme: `Host::parse_opaque`. A name is taken as it is. -/
def readVerbatim (cs : List Char) : Except Fault Host :=
  if cs.head? = some '[' then readBracketed cs
  else if cs.any forbidden.contains then .error .forbiddenCharacter
  else .ok (.domain (String.ofList (escape [] cs)))

end Host

end Uri

end Conform
