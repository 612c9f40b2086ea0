import Conform.Yaml.Cursor

/-!
# Block scalars

Lines of text by indentation. The header tells whether the lines are folded into one, what becomes
of the breaks at the end, and how deep the lines are indented; if it does not tell the last, the
first line that is not empty does. A folded line that starts with a blank keeps the breaks around
it.
-/

namespace Conform.Yaml.Block

open Conform.Text

/-- What becomes of the line breaks at the end of a block. -/
inductive Chomping where
  /-- None is kept. -/
  | strip
  /-- One is kept. -/
  | clip
  /-- All are kept. -/
  | keep

def chomping? (c : Cursor) : Option Chomping :=
  if c.sees '+' then some .keep else if c.sees '-' then some .strip else none

/-- The indentation of an indicator, a digit that is not zero. -/
def indentation? (c : Cursor) : Option (Option Nat) :=
  match c.peek? with
  | some ch =>
    if !isDigit ch then some none
    else if ch = '0' then none
    else some (some (ch.toNat - '0'.toNat))
  | none => some none

/-- The header behind the sign of a block: two indicators in either order. -/
def readHeader (c : Cursor) : Option (Chomping × Option Nat × Cursor) :=
  match chomping? c with
  | some chomping => do
    let c := c.advance 1
    let indentation ← indentation? c
    return (chomping, indentation, if indentation.isSome then c.advance 1 else c)
  | none => do
    let indentation ← indentation? c
    let c := if indentation.isSome then c.advance 1 else c
    match chomping? c with
    | some chomping => return (chomping, indentation, c.advance 1)
    | none => return (.clip, indentation, c)

/-- The breaks of empty lines, and the greatest column reached in front of them. The indentation is
none as long as it is not known. -/
def readBreaksFrom (indent : Option Nat) :
    Nat → Nat → List Char → Cursor → Option (List Char × Nat × Cursor)
  | 0, _, _, _ => none
  | fuel + 1, deepest, breaks, c =>
    let spaces := (c.rest.takeWhile (· = ' ')).length
    let c := c.advance (match indent with
      | some n => min spaces (n - c.column)
      | none => spaces)
    let deepest := max deepest c.column
    if indent.all (fun n => c.column < n) && c.sees '\t' then none
    else match c.lineBreak? with
      | some (b, next) => readBreaksFrom indent fuel deepest (breaks ++ [b]) next
      | none => some (breaks, deepest, c)

/-- The breaks of the empty lines at a place, and the greatest column reached in front of them. -/
def readBreaks (indent : Option Nat) (c : Cursor) : Option (List Char × Nat × Cursor) :=
  readBreaksFrom indent (c.rest.length + 1) 0 [] c

/-- What has been read of a block: the text up to the last line, the break behind it, whether it
starts with a blank, and the breaks of the empty lines that follow. -/
structure Found where
  text : List Char
  break? : Option Char
  blankStart : Bool
  breaks : List Char

/-- What stands between the last line and the next. A single break between two lines that start
without a blank is folded into a space. -/
def Found.between (folded : Bool) (f : Found) (blankStart : Bool) : List Char :=
  if folded && f.break? == some '\n' && !f.blankStart && !blankStart then
    if f.breaks.isEmpty then [' '] else f.breaks
  else f.break?.toList ++ f.breaks

/-- Reads on line by line. -/
def readLinesFrom (folded : Bool) (indent : Nat) : Nat → Found → Cursor → Option (Found × Cursor)
  | 0, _, _ => none
  | fuel + 1, f, c =>
    if c.column = indent ∧ c.peek?.isSome then do
      let blankStart := c.seesAny isBlank
      let (line, c) := c.takeWhile fun ch => !isBreak ch
      let text := f.text ++ f.between folded blankStart ++ line
      let (break?, c) := match c.lineBreak? with
        | some (b, next) => (some b, next)
        | none => (none, c)
      let (breaks, _, c) ← readBreaks (some indent) c
      readLinesFrom folded indent fuel ⟨text, break?, blankStart, breaks⟩ c
    else some (f, c)

def Found.chomped (f : Found) : Chomping → List Char
  | .strip => f.text
  | .clip => f.text ++ f.break?.toList
  | .keep => f.text ++ f.break?.toList ++ f.breaks

/-- The block scalar behind its sign, in a collection of the given indentation, which is below zero
outside of every collection. -/
def read (folded : Bool) (parent : Int) (c : Cursor) : Option (List Char × Cursor) := do
  let (chomping, indentation, c) ← readHeader c
  let c ← c.lineEnd?
  let given := indentation.map fun n => (max parent 0).toNat + n
  let (breaks, deepest, c) ← readBreaks given c
  let indent := given.getD (max (max deepest (parent + 1).toNat) 1)
  let (found, c) ← readLinesFrom folded indent (c.rest.length + 1) ⟨[], none, false, breaks⟩ c
  return (found.chomped chomping, c)

end Conform.Yaml.Block
