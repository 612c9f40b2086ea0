import Conform.Text.Digits
import Conform.Text.Utf8

/-!
# Percent encoding

A byte as a percent sign and two hexadecimal digits. Which characters of a component are written
that way depends on the component: every component escapes the controls and everything beyond
ASCII, and a few characters of its own.
-/

namespace Conform.Uri

open Conform.Text

def upperHex (n : Nat) : Char :=
  if n < 10 then Char.ofNat ('0'.toNat + n) else Char.ofNat ('A'.toNat + n - 10)

def escapeByte (b : UInt8) : List Char :=
  ['%', upperHex (b.toNat / 16), upperHex (b.toNat % 16)]

/-- The escape of a character: one per byte of its UTF-8 form. -/
def escapeChar (c : Char) : List Char :=
  (Utf8.encodeChar c).flatMap escapeByte

/-- Whether a component with the given characters of its own escapes a character. -/
def escapes (own : List Char) (c : Char) : Bool :=
  decide (c.toNat < 0x20) || decide (0x7F ≤ c.toNat) || own.contains c

/-- A component's text with its escapes. -/
def escape (own : List Char) (cs : List Char) : List Char :=
  cs.flatMap fun c => if escapes own c then escapeChar c else [c]

def fragmentSet : List Char := [' ', '"', '<', '>', '\x60']

def pathSet : List Char := fragmentSet ++ ['#', '?', '\x7b', '\x7d']

def userSet : List Char := pathSet ++ ['/', ':', ';', '=', '@', '[', '\\', ']', '^', '|']

def querySet : List Char := [' ', '"', '#', '<', '>']

/-- What a query escapes under the schemes that the web gives a meaning to. -/
def specialQuerySet : List Char := querySet ++ ['\'']

/-- The bytes of a text whose escapes are undone; a percent sign without two digits stands for
itself. -/
def unescape : List Char → List UInt8
  | [] => []
  | '%' :: a :: b :: rest =>
    match digitIn? 16 a, digitIn? 16 b with
    | some x, some y => UInt8.ofNat (x * 16 + y) :: unescape rest
    | _, _ => 0x25 :: unescape (a :: b :: rest)
  | c :: rest => Utf8.encodeChar c ++ unescape rest

end Conform.Uri
