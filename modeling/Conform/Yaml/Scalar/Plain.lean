import Conform.Yaml.Scalar.Gap

/-!
# Plain scalars

A scalar without quotes runs word by word, over several lines if these are indented deep enough. It
ends at a colon behind which a word could end, at a comment, and between brackets also at brackets
and commas.
-/

namespace Conform.Yaml

namespace Plain

/-- The brackets and the comma, which end words between brackets. -/
def isFlowIndicator (c : Char) : Bool :=
  c = ',' || c = '[' || c = ']' || c = '\x7b' || c = '\x7d'

/-- A word and what follows it. Between brackets a colon may not touch a bracket, a comma or a
question mark. -/
def readWord (inFlow : Bool) : List Char → Option (List Char × List Char)
  | [] => some ([], [])
  | c :: cs =>
    let next := cs.head?
    if isBlankOrBreak c then some ([], c :: cs)
    else if inFlow && c == ':' && next.any (fun n => isFlowIndicator n || n = '?') then none
    else if (c == ':' && next.all isBlankOrBreak) || (inFlow && isFlowIndicator c) then
      some ([], c :: cs)
    else (readWord inFlow cs).map fun (word, rest) => (c :: word, rest)

/-- What has been read of a plain scalar, and whether a line has ended behind its last word. -/
structure Found where
  text : List Char
  lineEnded : Bool
  next : Cursor

def readFrom (inFlow : Bool) (indent : Nat) : Nat → List Char → Gap → Cursor → Option Found
  | 0, _, _, _ => none
  | fuel + 1, text, gap, c =>
    if c.seesBoundary || c.sees '#' then some ⟨text, gap.folded, c⟩
    else do
      let (word, rest) ← readWord inFlow c.rest
      let c := c.upTo rest
      if word.isEmpty then some ⟨text, gap.folded, c⟩
      else
        let text := text ++ gap.text ++ word
        if c.seesAny isBlankOrBreak then
          let (gap, c) := Gap.none.read c
          if gap.tabs.any (· < indent) then none
          else if !inFlow && c.column < indent then some ⟨text, gap.folded, c⟩
          else readFrom inFlow indent fuel text gap c
        else some ⟨text, false, c⟩

/-- The plain scalar at a place, whose lines have to stand at least in the given column. -/
def read (inFlow : Bool) (indent : Nat) (c : Cursor) : Option Found :=
  readFrom inFlow indent (c.rest.length + 1) [] Gap.none c

end Plain

end Conform.Yaml
