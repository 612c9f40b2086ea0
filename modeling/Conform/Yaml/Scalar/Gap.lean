import Conform.Yaml.Cursor

/-!
# Gaps in scalars

What stands between two words of a plain or quoted scalar: blanks, or line breaks with blanks around
them. Blanks on one line are kept. Where a line ends the blanks are dropped; a single break counts
as one space, and of several breaks all but the first are kept. A separator character never turns
into a space. Behind an escaped line break every further break is kept.
-/

namespace Conform.Yaml

/-- What stands between two words. -/
structure Gap where
  /-- The first line break is escaped. -/
  escaped : Bool
  /-- A line has ended. -/
  folded : Bool
  /-- The blanks, as long as no line has ended. -/
  blanks : List Char
  /-- The line breaks that are not escaped. -/
  breaks : List Char
  /-- The columns of the tabs in front of the first word of a line. -/
  tabs : List Nat

namespace Gap

def none : Gap := ⟨false, false, [], [], []⟩

def escapedBreak : Gap := ⟨true, true, [], [], []⟩

/-- The gap with one more blank, which stands in a column. -/
def addBlank (g : Gap) (ch : Char) (column : Nat) : Gap :=
  if g.folded then { g with tabs := if ch = '\t' then column :: g.tabs else g.tabs }
  else { g with blanks := g.blanks ++ [ch] }

/-- The gap with one more line break. -/
def addBreak (g : Gap) (ch : Char) : Gap :=
  { g with folded := true, blanks := [], breaks := g.breaks ++ [ch] }

/-- Line breaks as they count between two words. -/
def foldBreaks : List Char → List Char
  | ['\n'] => [' ']
  | '\n' :: more => more
  | breaks => breaks

def text (g : Gap) : List Char :=
  if !g.folded then g.blanks else if g.escaped then g.breaks else foldBreaks g.breaks

/-- Takes the blanks and breaks at a place into a gap. -/
def readFrom : Nat → Gap → Cursor → Gap × Cursor
  | 0, g, c => (g, c)
  | fuel + 1, g, c =>
    match c.peek? with
    | Option.none => (g, c)
    | some ch =>
      if isBlank ch then readFrom fuel (g.addBlank ch c.column) (c.advance 1)
      else match c.lineBreak? with
        | some (b, next) => readFrom fuel (g.addBreak b) next
        | Option.none => (g, c)

/-- Takes the blanks and breaks at a place into a gap. -/
def read (g : Gap) (c : Cursor) : Gap × Cursor :=
  readFrom c.rest.length g c

end Gap

end Conform.Yaml
