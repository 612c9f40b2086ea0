import Conform.Term.Basic
import Conform.Text.Blank
import Conform.Text.Utf8

/-!
# Views of terms

Terms that stand for the same thing in different shapes: text may be a string, an atom, UTF-8 bytes
or a list of character codes, and pairs may be a map or a list of tuples of two. A nonempty list of
printable character codes counts as one text wherever text and sequences have to be told apart.

These are `as_text`, `as_key` and `as_pairs`, and `is_char_list` on which they rest.
-/

namespace Conform.Term

open Conform.Text

/-- The character of an integer that is a code point (`char_of`). -/
def charOf? : Term → Option Char
  | .integer i =>
    if 0 ≤ i.toInt then
      if h : i.toInt.toNat.isValidChar then some (Char.ofNatAux i.toInt.toNat h) else none
    else none
  | _ => none

/-- The characters of texts spelled as codes: all but the control characters, of which the line
ends, the tabs, backspace, form feed and escape are in. -/
def isTextChar (c : Char) : Bool :=
  !isControl c || ['\n', '\r', '\t', '\x0b', '\x08', '\x0c', '\x1b'].contains c

/-- A nonempty list of printable character codes (`is_char_list`). -/
def isCharList (items : List Term) : Bool :=
  !items.isEmpty && items.all fun t => (charOf? t).any isTextChar

/-- The text that a term stands for (`as_text`). -/
def text? : Term → Option String
  | .string s => some s
  | .atom a => some a.name
  | .binary bytes => (Utf8.decode bytes).map String.ofList
  | .list items => if isCharList items then some (String.ofList (items.filterMap charOf?)) else none
  | _ => none

/-- The key that a term stands for (`as_key`). -/
def key? : Term → Option Key
  | .atom a => some (.symbol a)
  | .string s => some (.text s)
  | .binary bytes => (Utf8.decode bytes).map fun cs => .text (String.ofList cs)
  | _ => none

/-- The pair of a tuple of two whose first item stands for a key. -/
def pairOf? : Term → Option (Key × Term)
  | .tuple [k, v] => (key? k).map (·, v)
  | _ => none

/-- The pairs of a map, or of a list of tuples of two (`as_pairs`). -/
def pairs? : Term → Option Pairs
  | .map pairs => some pairs
  | .list items => items.mapM pairOf?
  | _ => none

end Conform.Term
