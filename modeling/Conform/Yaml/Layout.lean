import Conform.Yaml.Token

/-!
# From text to tokens

The tokens of a text depend on its layout. Outside of brackets every collection has the column of
its entries as its indentation: a deeper column opens a collection, a shallower one closes those
that are deeper. A key on one line is known as such only when its colon comes; until then its start
is a candidate, and the colon puts a key token, and the start of a mapping if need be, in front of
the tokens that came since. A candidate is given up when its line ends or after 1024 characters; if
the indentation requires it to be a key, this is an error.
-/

namespace Conform.Yaml

/-- A place at which a one-line key may have started. -/
structure Candidate where
  /-- Nothing but a key may stand there. -/
  required : Bool
  /-- How many tokens precede it. -/
  position : Nat
  line : Nat
  index : Nat
  column : Nat

/-- What the tokens to come depend on. -/
structure Layout where
  /-- The tokens so far. -/
  tokens : List Token
  cursor : Cursor
  /-- The column of the innermost collection's entries, -1 outside of every collection. -/
  indent : Int
  /-- The same of the collections around it. -/
  outerIndents : List Int
  /-- Whether a one-line key may start here. -/
  keyAllowed : Bool
  /-- The candidate between the innermost brackets. -/
  candidate : Option Candidate
  /-- The candidates between the brackets around them, one for each pair of brackets. -/
  outerCandidates : List (Option Candidate)

namespace Layout

def start (cs : List Char) : Layout :=
  ⟨[], .start cs, -1, [], true, none, []⟩

/-- Whether the place is between brackets. -/
def inFlow (l : Layout) : Bool :=
  !l.outerCandidates.isEmpty

def emit (l : Layout) (t : Token) : Layout :=
  { l with tokens := l.tokens ++ [t] }

/-- Puts a token in front of those that came since a position. -/
def insert (l : Layout) (position : Nat) (t : Token) : Layout :=
  { l with tokens := l.tokens.take position ++ t :: l.tokens.drop position }

def moveTo (l : Layout) (c : Cursor) : Layout :=
  { l with cursor := c }

/-! ## Blanks and comments -/

/-- Skips blanks, comments and line breaks. Outside of brackets a tab is blank only where no key may
start, and a line break allows one. -/
def skipBlanks : Nat → Layout → Layout
  | 0, l => l
  | fuel + 1, l =>
    let c := l.cursor
    let c := if c.index = 0 ∧ c.sees '\ufeff' then c.advance 1 else c
    let tabs := l.inFlow || !l.keyAllowed
    let c := (c.skipWhile fun ch => ch = ' ' || (tabs && ch = '\t')).skipComment
    match c.lineBreak? with
    | some (_, next) =>
      skipBlanks fuel { l with cursor := next, keyAllowed := l.keyAllowed || !l.inFlow }
    | none => l.moveTo c

/-! ## Candidates -/

/-- Whether a candidate can no longer become a key at a place. -/
def Candidate.isStale (c : Cursor) (k : Candidate) : Bool :=
  k.line < c.line || k.index + 1024 < c.index

/-- Gives up a candidate; fails if a key was required. -/
def giveUp (k : Option Candidate) : Option (Option Candidate) :=
  if k.any (·.required) then none else some none

/-- Gives up the candidates that can no longer become keys. -/
def dropStale (l : Layout) : Option Layout := do
  let drop (k : Option Candidate) : Option (Option Candidate) :=
    if k.any (Candidate.isStale l.cursor) then giveUp k else some k
  let candidate ← drop l.candidate
  let outer ← l.outerCandidates.mapM drop
  return { l with candidate := candidate, outerCandidates := outer }

/-- Gives up the innermost candidate. -/
def forget (l : Layout) : Option Layout :=
  (giveUp l.candidate).map fun k => { l with candidate := k }

/-- Makes the place a candidate if a key may start there. -/
def offer (l : Layout) : Option Layout :=
  if l.keyAllowed then do
    let l ← l.forget
    let c := l.cursor
    let required := !l.inFlow && l.indent == (c.column : Int)
    return { l with candidate := some ⟨required, l.tokens.length, c.line, c.index, c.column⟩ }
  else some l

/-! ## Indentation -/

/-- Opens a collection if the column is deeper than the indentation. Its first token goes to a
position. -/
def openBlock (l : Layout) (column position : Nat) (t : Token) : Layout :=
  if !l.inFlow && l.indent < (column : Int) then
    { l.insert position t with indent := column, outerIndents := l.indent :: l.outerIndents }
  else l

/-- Opens a collection here. -/
def openBlockHere (l : Layout) (t : Token) : Layout :=
  l.openBlock l.cursor.column l.tokens.length t

/-- Closes the innermost collections as long as they are deeper than a column. -/
def closeThrough (column : Int) : Int → List Int → List Token → Int × List Int × List Token
  | indent, [], tokens => (indent, [], tokens)
  | indent, outer :: more, tokens =>
    if column < indent then closeThrough column outer more (tokens ++ [.blockEnd])
    else (indent, outer :: more, tokens)

/-- Closes the collections that are deeper than a column; between brackets none is. -/
def closeBlocks (l : Layout) (column : Int) : Layout :=
  if l.inFlow then l
  else
    let (indent, outer, tokens) := closeThrough column l.indent l.outerIndents l.tokens
    { l with indent := indent, outerIndents := outer, tokens := tokens }

/-! ## Tokens -/

/-- A token that a few characters stand for. -/
def indicators (l : Layout) (count : Nat) (t : Token) : Layout :=
  (l.moveTo (l.cursor.advance count)).emit t

def indicator (l : Layout) (t : Token) : Layout :=
  l.indicators 1 t

/-- Starts afresh at the edge of a document. -/
def leaveDocument (l : Layout) : Option Layout :=
  (l.closeBlocks (-1)).forget.map fun l => { l with keyAllowed := false }

def readMark (l : Layout) (t : Token) : Option Layout :=
  l.leaveDocument.map (·.indicators 3 t)

def readDirective (l : Layout) : Option Layout := do
  let l ← l.leaveDocument
  let (t, c) ← Token.readDirective l.cursor
  return (l.moveTo c).emit t

/-- An opening bracket, which may itself be the start of a key. -/
def openFlow (l : Layout) (t : Token) : Option Layout := do
  let l ← l.offer
  let l := { l with
    candidate := none, outerCandidates := l.candidate :: l.outerCandidates, keyAllowed := true }
  return l.indicator t

/-- A closing bracket; one too many changes nothing. -/
def closeFlow (l : Layout) (t : Token) : Option Layout := do
  let l ← l.forget
  let l := match l.outerCandidates with
    | [] => l
    | k :: ks => { l with candidate := k, outerCandidates := ks }
  return { l with keyAllowed := false }.indicator t

def readFlowEntry (l : Layout) : Option Layout := do
  let l ← l.forget
  return { l with keyAllowed := true }.indicator .flowEntry

/-- The dash of an entry. -/
def readBlockEntry (l : Layout) : Option Layout := do
  guard (l.inFlow || l.keyAllowed)
  let l ← (l.openBlockHere .blockSequenceStart).forget
  return { l with keyAllowed := true }.indicator .blockEntry

/-- The question mark of a key. -/
def readKey (l : Layout) : Option Layout := do
  guard (l.inFlow || l.keyAllowed)
  let l ← (l.openBlockHere .blockMappingStart).forget
  return { l with keyAllowed := !l.inFlow }.indicator .key

/-- The colon of a value. It turns a candidate into a key. -/
def readValue (l : Layout) : Option Layout :=
  match l.candidate with
  | some k =>
    let l := (l.insert k.position .key).openBlock k.column k.position .blockMappingStart
    some ({ l with candidate := none, keyAllowed := false }.indicator .value)
  | none => do
    guard (l.inFlow || l.keyAllowed)
    let l := l.openBlockHere .blockMappingStart
    return { l with keyAllowed := !l.inFlow }.indicator .value

/-- A token that may be the start of a key, read by a reader of its own. -/
def readContent (l : Layout) (reader : Layout → Option (Token × Bool × Cursor)) :
    Option Layout := do
  let l ← l.offer
  let (t, keyAllowed, c) ← reader l
  return ({ l with keyAllowed := keyAllowed }.moveTo c).emit t

def readName (l : Layout) (make : List Char → Token) : Option Layout :=
  l.readContent fun l =>
    (Token.readName (l.cursor.advance 1)).map fun (name, c) => (make name, false, c)

def readTag (l : Layout) : Option Layout :=
  l.readContent fun l =>
    (Token.readTag l.inFlow l.cursor).map fun (t, c) => (t, false, c)

def readQuoted (l : Layout) (single : Bool) : Option Layout :=
  l.readContent fun l =>
    (Quoted.read single (l.cursor.advance 1)).map fun (text, c) =>
      (.scalar .quoted text, false, c)

def readPlain (l : Layout) : Option Layout :=
  l.readContent fun l =>
    (Plain.read l.inFlow (l.indent + 1).toNat l.cursor).map fun found =>
      (.scalar .plain found.text, found.lineEnded, found.next)

def readBlock (l : Layout) (folded : Bool) : Option Layout := do
  let l ← l.forget
  let (text, c) ← Block.read folded l.indent (l.cursor.advance 1)
  let style := if folded then .folded else .literal
  return ({ l with keyAllowed := true }.moveTo c).emit (.scalar style text)

/-- Whether a plain scalar may start at a place. -/
def startsPlain (l : Layout) (ch : Char) : Bool :=
  let wordEnds := l.cursor.wordEndsAt 1
  if ch = '-' then !wordEnds
  else if ch = '?' ∨ ch = ':' then !l.inFlow && !wordEnds
  else !isBlankOrBreak ch && !",[]\x7b\x7d#&*!|>'\"%@\x60".toList.contains ch

/-- The token that starts with a character. -/
def readToken (l : Layout) (ch : Char) : Option Layout :=
  let c := l.cursor
  let alone := c.wordEndsAt 1
  if c.column = 0 ∧ ch = '%' then l.readDirective
  else if c.seesMark '-' then l.readMark .documentStart
  else if c.seesMark '.' then l.readMark .documentEnd
  else if ch = '[' then l.openFlow .flowSequenceStart
  else if ch = '\x7b' then l.openFlow .flowMappingStart
  else if ch = ']' then l.closeFlow .flowSequenceEnd
  else if ch = '\x7d' then l.closeFlow .flowMappingEnd
  else if ch = ',' then l.readFlowEntry
  else if ch = '-' ∧ alone then l.readBlockEntry
  else if ch = '?' ∧ (l.inFlow || alone) then l.readKey
  else if ch = ':' ∧ (l.inFlow || alone) then l.readValue
  else if ch = '*' then l.readName .alias
  else if ch = '&' then l.readName .anchor
  else if ch = '!' then l.readTag
  else if ch = '|' ∧ !l.inFlow then l.readBlock false
  else if ch = '>' ∧ !l.inFlow then l.readBlock true
  else if ch = '\'' then l.readQuoted true
  else if ch = '"' then l.readQuoted false
  else if l.startsPlain ch then l.readPlain
  else none

/-- All tokens up to the end of the text, where every collection ends. Each token but those that
stand for indentation takes a character at least. -/
def readAll : Nat → Layout → Option Layout
  | 0, _ => none
  | fuel + 1, l => do
    let l ← (skipBlanks (l.cursor.rest.length + 1) l).dropStale
    let l := l.closeBlocks l.cursor.column
    match l.cursor.peek? with
    | none => (l.closeBlocks (-1)).forget
    | some ch =>
      let l ← l.readToken ch
      readAll fuel l

end Layout

/-- The tokens of a text. -/
def Token.ofText? (cs : List Char) : Option (List Token) :=
  if cs.all isAllowed then
    ((Layout.start cs).readAll (cs.length + 1)).map (·.tokens)
  else none

end Conform.Yaml
