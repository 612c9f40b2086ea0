import Conform.Yaml.Scalar.Gap

/-!
# Quoted scalars

In single quotes the quote itself is written twice and nothing else is special. In double quotes a
backslash starts an escape, which may also hide the end of a line. Either may run over several
lines, but not over the end of a document.
-/

namespace Conform.Yaml.Quoted

open Conform.Text

def escaped? : Char → Option Char
  | '0' => some '\x00'
  | 'a' => some '\x07'
  | 'b' => some '\x08'
  | 't' => some '\t'
  | '\t' => some '\t'
  | 'n' => some '\n'
  | 'v' => some '\x0b'
  | 'f' => some '\x0c'
  | 'r' => some '\r'
  | 'e' => some '\x1b'
  | ' ' => some ' '
  | '"' => some '"'
  | '/' => some '/'
  | '\\' => some '\\'
  | 'N' => some '\u0085'
  | '_' => some '\u00a0'
  | 'L' => some '\u2028'
  | 'P' => some '\u2029'
  | _ => none

/-- The number of digits of an escape by code point. -/
def codeLength? : Char → Option Nat
  | 'x' => some 2
  | 'u' => some 4
  | 'U' => some 8
  | _ => none

def charOf? (n : Nat) : Option Char :=
  if h : n.isValidChar then some (Char.ofNatAux n h) else none

/-- The character behind a backslash, and what follows it. -/
def readEscape? (e : Char) (cs : List Char) : Option (Char × List Char) :=
  match codeLength? e with
  | some n =>
    if (cs.take n).length < n then none
    else ((readNat? 16 (cs.take n)).bind charOf?).map (·, cs.drop n)
  | none => (escaped? e).map (·, cs)

/-- An escape takes at least one character off, so reading a quoted scalar ends. -/
theorem length_readEscape {e : Char} {cs : List Char} {r : Char × List Char}
    (h : readEscape? e cs = some r) : r.2.length ≤ cs.length := by
  unfold readEscape? at h
  split at h
  · split at h
    · simp at h
    · obtain ⟨_, _, rfl⟩ := Option.map_eq_some_iff.1 h
      simp
  · obtain ⟨_, _, rfl⟩ := Option.map_eq_some_iff.1 h
    simp

/-- A part without blanks and breaks in double quotes, and what follows it. It also ends in front
of an escaped line break. -/
def readDouble : List Char → Option (List Char × List Char)
  | [] => some ([], [])
  | '\\' :: e :: cs =>
    if isBreak e then some ([], '\\' :: e :: cs)
    else
      match _ : readEscape? e cs with
      | none => none
      | some (c, rest) => (readDouble rest).map fun (part, rest) => (c :: part, rest)
  | c :: cs =>
    if c = '\\' then none
    else if c = '"' ∨ isBlankOrBreak c then some ([], c :: cs)
    else (readDouble cs).map fun (part, rest) => (c :: part, rest)
termination_by cs => cs.length
decreasing_by
  · have shorter : rest.length ≤ cs.length := length_readEscape ‹readEscape? e cs = some _›
    simp only [List.length_cons]
    omega
  · simp

/-- A part without blanks and breaks in single quotes, and what follows it. -/
def readSingle : List Char → List Char × List Char
  | [] => ([], [])
  | '\'' :: '\'' :: cs =>
    let (part, rest) := readSingle cs
    ('\'' :: part, rest)
  | c :: cs =>
    if c = '\'' ∨ isBlankOrBreak c then ([], c :: cs)
    else
      let (part, rest) := readSingle cs
      (c :: part, rest)

/-- The place behind an escaped line break. -/
def escapedBreak? (c : Cursor) : Option Cursor :=
  if c.sees '\\' then ((c.advance 1).lineBreak?).map (·.2) else none

def readFrom (single : Bool) : Nat → List Char → Cursor → Option (List Char × Cursor)
  | 0, _, _ => none
  | fuel + 1, text, c =>
    if c.seesBoundary || c.peek?.isNone then none
    else do
      let (part, rest) ← if single then some (readSingle c.rest) else readDouble c.rest
      let text := text ++ part
      let c := c.upTo rest
      if c.sees (if single then '\'' else '"') then some (text, c.advance 1)
      else
        let (gap, c) := match if single then none else escapedBreak? c with
          | some next => Gap.escapedBreak.read next
          | none => Gap.none.read c
        readFrom single fuel (text ++ gap.text) c

/-- The scalar behind an opening quote, and the place behind its closing quote. -/
def read (single : Bool) (c : Cursor) : Option (List Char × Cursor) :=
  readFrom single (c.rest.length + 1) [] c

end Conform.Yaml.Quoted
