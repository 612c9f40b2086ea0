import Conform.Text.Digits

/-!
# Places in a YAML text

A cursor is a place in a text together with what indentation and one-line keys depend on: how many
characters precede it, on which line it stands and in which column. The cursor moves by characters
within a line and by whole line breaks; a carriage return before a line feed is one break with it.
-/

namespace Conform.Yaml

open Conform.Text

/-! ## Characters -/

/-- The characters that a YAML text may consist of. -/
def isAllowed (c : Char) : Bool :=
  let n := c.toNat
  n = 0x09 || n = 0x0A || n = 0x0D || (0x20 ≤ n && n ≤ 0x7E) || n = 0x85
    || (0xA0 ≤ n && n ≤ 0xD7FF) || (0xE000 ≤ n && n ≤ 0xFFFD) || 0x10000 ≤ n

/-- A space or a tab. -/
def isBlank (c : Char) : Bool :=
  c = ' ' || c = '\t'

/-- The line and the paragraph separator, breaks that are kept as they are. -/
def isSeparator (c : Char) : Bool :=
  c = '\u2028' || c = '\u2029'

def isBreak (c : Char) : Bool :=
  c = '\r' || c = '\n' || c = '\u0085' || isSeparator c

/-- A character that ends a word. -/
def isBlankOrBreak (c : Char) : Bool :=
  isBlank c || isBreak c

/-- The characters of names: of anchors, directives and tag handles. -/
def isNameChar (c : Char) : Bool :=
  isLetter c || isDigit c || c = '_' || c = '-'

/-! ## Cursors -/

/-- A place in a text. -/
structure Cursor where
  rest : List Char
  index : Nat
  line : Nat
  column : Nat

namespace Cursor

def start (cs : List Char) : Cursor :=
  ⟨cs, 0, 0, 0⟩

/-- The place some characters further on the same line. -/
def advance (n : Nat) (c : Cursor) : Cursor :=
  ⟨c.rest.drop n, c.index + n, c.line, c.column + n⟩

/-- The place on the same line where a given end of the text begins. -/
def upTo (rest : List Char) (c : Cursor) : Cursor :=
  c.advance (c.rest.length - rest.length)

/-- The character at the place, unless the text has ended. -/
def peek? (c : Cursor) : Option Char :=
  c.rest.head?

def sees (c : Cursor) (ch : Char) : Bool :=
  c.peek? == some ch

def seesAny (c : Cursor) (p : Char → Bool) : Bool :=
  c.peek?.any p

/-- Whether a word ends some characters after the place; the end of the text ends every word. -/
def wordEndsAt (c : Cursor) (n : Nat) : Bool :=
  (c.rest[n]?).all isBlankOrBreak

/-- Whether the line ends at the place. -/
def lineEnds (c : Cursor) : Bool :=
  c.peek?.all isBreak

/-- The line break at the place, as it counts in a text, and the place behind it. -/
def lineBreak? (c : Cursor) : Option (Char × Cursor) :=
  match c.rest with
  | '\r' :: '\n' :: rest => some ('\n', ⟨rest, c.index + 2, c.line + 1, 0⟩)
  | ch :: rest =>
    if isBreak ch then
      some (if isSeparator ch then ch else '\n', ⟨rest, c.index + 1, c.line + 1, 0⟩)
    else none
  | [] => none

def skipBreak (c : Cursor) : Cursor :=
  match c.lineBreak? with
  | some (_, next) => next
  | none => c

/-- The characters of a kind at the place, and the place behind them. -/
def takeWhile (p : Char → Bool) (c : Cursor) : List Char × Cursor :=
  let taken := c.rest.takeWhile p
  (taken, c.advance taken.length)

def skipWhile (p : Char → Bool) (c : Cursor) : Cursor :=
  (c.takeWhile p).2

/-- The place at the end of the line if a comment starts here. -/
def skipComment (c : Cursor) : Cursor :=
  if c.sees '#' then c.skipWhile fun ch => !isBreak ch else c

/-- Whether one of the two marks between documents is at the place: three of a character at the
start of a line, alone. -/
def seesMark (c : Cursor) (ch : Char) : Bool :=
  c.column == 0 && c.rest.take 3 == [ch, ch, ch] && c.wordEndsAt 3

/-- Whether a document ends at the place. -/
def seesBoundary (c : Cursor) : Bool :=
  c.seesMark '-' || c.seesMark '.'

/-- The place at the end of a line that may hold blanks and a comment and nothing else. -/
def lineEnd? (c : Cursor) : Option Cursor :=
  let c := (c.skipWhile isBlank).skipComment
  if c.lineEnds then some c.skipBreak else none

end Cursor

end Conform.Yaml
