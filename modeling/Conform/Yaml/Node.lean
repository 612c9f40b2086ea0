import Conform.Yaml.Layout

/-!
# YAML nodes

A document is a tree of nodes. A node may have an anchor, by which aliases refer to it, and a tag;
where a node is left out an empty plain scalar stands. The type of the anchors is a parameter:
written documents name them, and numbered ones have a number in place of each name, which the
aliases share.
-/

namespace Conform.Yaml

/-- The anchor and the tag of a node. -/
structure Properties (α : Type) where
  anchor : Option α
  tag : Option (List Char)

/-- A node. -/
inductive Node (α : Type) where
  | alias (target : α)
  | scalar (properties : Properties α) (style : Style) (text : List Char)
  | sequence (properties : Properties α) (items : List (Node α))
  | mapping (properties : Properties α) (pairs : List (Node α × Node α))

namespace Node

def bare {α : Type} : Properties α := ⟨none, none⟩

/-- The node that stands where none is written. -/
def empty {α : Type} : Node α := .scalar bare .plain []

/-! ## From tokens -/

/-- What the handles of tags stand for. -/
abbrev Handles := List (List Char × List Char)

/-- The handles that need no directive, behind those that have one. -/
def withStandard (handles : Handles) : Handles :=
  handles ++ [(['!'], ['!']), (['!', '!'], "tag:yaml.org,2002:".toList)]

/-- The tag that a handle and a suffix stand for; without a handle the suffix is all of it. -/
def resolveTag (handles : Handles) (handle suffix : List Char) : Option (List Char) :=
  if handle.isEmpty then some suffix
  else (handles.find? (·.1 == handle)).map (·.2 ++ suffix)

/-- The properties in front of a node, in either order, and the tokens that follow them. -/
def readProperties (handles : Handles) :
    List Token → Option (Properties (List Char) × List Token)
  | .anchor a :: .tag h s :: ts => (resolveTag handles h s).map fun t => (⟨some a, some t⟩, ts)
  | .tag h s :: .anchor a :: ts => (resolveTag handles h s).map fun t => (⟨some a, some t⟩, ts)
  | .anchor a :: ts => some (⟨some a, none⟩, ts)
  | .tag h s :: ts => (resolveTag handles h s).map fun t => (⟨none, some t⟩, ts)
  | ts => some (bare, ts)

/-- The properties of a scalar: the lone exclamation mark is no tag. -/
def scalarProperties (p : Properties (List Char)) : Properties (List Char) :=
  if p.tag = some ['!'] then { p with tag := none } else p

/-- Whether one of these tokens comes next. -/
def nextIn (ends : List Token) (ts : List Token) : Bool :=
  ts.head?.any ends.contains

mutual

/-- A node and the tokens that follow it. `block` allows collections by indentation; `indentless`
allows a sequence whose entries are not indented deeper than the key they belong to. -/
def read (handles : Handles) :
    Nat → Bool → Bool → List Token → Option (Node (List Char) × List Token)
  | 0, _, _, _ => none
  | _ + 1, _, _, .alias name :: ts => some (.alias name, ts)
  | fuel + 1, block, indentless, ts => do
    let (properties, ts) ← readProperties handles ts
    match ts with
    | .scalar style text :: rest => return (.scalar (scalarProperties properties) style text, rest)
    | .flowSequenceStart :: rest => do
      let (items, rest) ← readFlowItems handles fuel true rest
      return (.sequence properties items, rest)
    | .flowMappingStart :: rest => do
      let (pairs, rest) ← readFlowPairs handles fuel true rest
      return (.mapping properties pairs, rest)
    | t :: rest =>
      if indentless ∧ t = .blockEntry then do
        let (items, rest) ← readIndentless handles fuel ts
        return (.sequence properties items, rest)
      else if block ∧ t = .blockSequenceStart then do
        let (items, rest) ← readEntries handles fuel rest
        return (.sequence properties items, rest)
      else if block ∧ t = .blockMappingStart then do
        let (pairs, rest) ← readPairs handles fuel rest
        return (.mapping properties pairs, rest)
      else if properties.anchor.isSome ∨ properties.tag.isSome then
        return (.scalar properties .plain [], ts)
      else none
    | [] =>
      if properties.anchor.isSome ∨ properties.tag.isSome then
        return (.scalar properties .plain [], ts)
      else none

/-- The node before one of these tokens, or the empty node if one of them comes at once. -/
def readUnless (handles : Handles) :
    Nat → List Token → Bool → Bool → List Token → Option (Node (List Char) × List Token)
  | 0, _, _, _, _ => none
  | fuel + 1, ends, block, indentless, ts =>
    if nextIn ends ts then some (empty, ts) else read handles fuel block indentless ts

/-- The value behind a key: behind its sign, or the empty node. -/
def readValue (handles : Handles) :
    Nat → List Token → Bool → List Token → Option (Node (List Char) × List Token)
  | 0, _, _, _ => none
  | fuel + 1, ends, block, ts =>
    match ts with
    | .value :: ts => readUnless handles fuel ends block block ts
    | ts => some (empty, ts)

def readEntries (handles : Handles) :
    Nat → List Token → Option (List (Node (List Char)) × List Token)
  | fuel + 1, .blockEntry :: ts => do
    let (item, ts) ← readUnless handles fuel [.blockEntry, .blockEnd] true false ts
    let (items, ts) ← readEntries handles fuel ts
    return (item :: items, ts)
  | _ + 1, .blockEnd :: ts => some ([], ts)
  | _, _ => none

/-- The entries of a sequence that is indented like its key. -/
def readIndentless (handles : Handles) :
    Nat → List Token → Option (List (Node (List Char)) × List Token)
  | 0, _ => none
  | fuel + 1, .blockEntry :: ts => do
    let (item, ts) ← readUnless handles fuel [.blockEntry, .key, .value, .blockEnd] true false ts
    let (items, ts) ← readIndentless handles fuel ts
    return (item :: items, ts)
  | _ + 1, ts => some ([], ts)

def readPairs (handles : Handles) :
    Nat → List Token → Option (List (Node (List Char) × Node (List Char)) × List Token)
  | fuel + 1, .key :: ts => do
    let (key, ts) ← readUnless handles fuel [.key, .value, .blockEnd] true true ts
    let (value, ts) ← readValue handles fuel [.key, .value, .blockEnd] true ts
    let (pairs, ts) ← readPairs handles fuel ts
    return ((key, value) :: pairs, ts)
  | _ + 1, .blockEnd :: ts => some ([], ts)
  | _, _ => none

/-- The items of a sequence in brackets. An item may be a single pair. If the key of that is left
out, the token at which this shows is passed over. -/
def readFlowItems (handles : Handles) :
    Nat → Bool → List Token → Option (List (Node (List Char)) × List Token)
  | 0, _, _ => none
  | _ + 1, _, .flowSequenceEnd :: ts => some ([], ts)
  | fuel + 1, first, ts => do
    let ts ← if first then some ts else
      match ts with
      | .flowEntry :: ts => some ts
      | _ => none
    match ts with
    | .flowSequenceEnd :: ts => return ([], ts)
    | .key :: ts => do
      let absent := nextIn [.value, .flowEntry, .flowSequenceEnd] ts
      let (key, ts) ← if absent then some (empty, ts.tail) else read handles fuel false false ts
      let (value, ts) ← readValue handles fuel [.flowEntry, .flowSequenceEnd] false ts
      let (items, ts) ← readFlowItems handles fuel false ts
      return (.mapping bare [(key, value)] :: items, ts)
    | ts => do
      let (item, ts) ← read handles fuel false false ts
      let (items, ts) ← readFlowItems handles fuel false ts
      return (item :: items, ts)

/-- The pairs of a mapping in braces. -/
def readFlowPairs (handles : Handles) :
    Nat → Bool → List Token →
      Option (List (Node (List Char) × Node (List Char)) × List Token)
  | 0, _, _ => none
  | _ + 1, _, .flowMappingEnd :: ts => some ([], ts)
  | fuel + 1, first, ts => do
    let ts ← if first then some ts else
      match ts with
      | .flowEntry :: ts => some ts
      | _ => none
    match ts with
    | .flowMappingEnd :: ts => return ([], ts)
    | .key :: ts => do
      let (key, ts) ← readUnless handles fuel [.value, .flowEntry, .flowMappingEnd] false false ts
      let (value, ts) ← readValue handles fuel [.flowEntry, .flowMappingEnd] false ts
      let (pairs, ts) ← readFlowPairs handles fuel false ts
      return ((key, value) :: pairs, ts)
    | ts => do
      let (key, ts) ← read handles fuel false false ts
      let (pairs, ts) ← readFlowPairs handles fuel false ts
      return ((key, empty) :: pairs, ts)

end

/-! ## Documents -/

/-- Reads the directives of a document. There may be one version, of which the first digit is one
and the second one or two, and one prefix for each handle. -/
def readDirectives : List Token → Bool → Handles → Option (Handles × List Token)
  | .version major minor :: ts, versioned, handles =>
    if versioned ∨ major ≠ 1 ∨ (minor ≠ 1 ∧ minor ≠ 2) then none
    else readDirectives ts true handles
  | .tagPrefix handle start :: ts, versioned, handles =>
    if handles.any (·.1 == handle) then none
    else readDirectives ts versioned (handles ++ [(handle, start)])
  | ts, _, handles => some (handles, ts)

/-- Whether a document comes to an end here, or another one starts. -/
def atBoundary : List Token → Bool
  | [] => true
  | .version _ _ :: _ => true
  | .tagPrefix _ _ :: _ => true
  | .documentStart :: _ => true
  | .documentEnd :: _ => true
  | _ => false

/-- The node of a text's only document; nothing if there is no document. No token is looked at by
more than four calls inside each other, which bounds the fuel. -/
def ofTokens? (tokens : List Token) : Option (Option (Node (List Char))) :=
  let fuel := 4 * tokens.length + 4
  match tokens with
  | [] => some none
  | _ => do
    let (handles, rest) ← readDirectives tokens false []
    let handles := withStandard handles
    let started := rest.head? == some .documentStart
    guard (started || rest.length == tokens.length)
    let (node, rest) ←
      if started ∧ atBoundary rest.tail then some (empty, rest.tail)
      else read handles fuel true false (if started then rest.tail else rest)
    guard (rest.all (· == .documentEnd))
    return some node

/-! ## Numbers for names -/

/-- The numbers of the names that have been used. -/
abbrev Numbers := List (List Char × Nat)

/-- Gives a name its number, which is the count of the different names before it. -/
def assign (numbers : Numbers) (name : List Char) : Numbers :=
  (numbers.filter (·.1 != name)) ++ [(name, numbers.length)]

/-- The number of an anchor and the numbers with it. -/
def numberAnchor (p : Properties (List Char)) (numbers : Numbers) : Properties Nat × Numbers :=
  match p.anchor with
  | some name => (⟨some numbers.length, p.tag⟩, assign numbers name)
  | none => (⟨none, p.tag⟩, numbers)

mutual

/-- The node with numbers for names, in the order of the text. An alias takes the number that its
name has where it stands, and fails if it has none. -/
def number : Node (List Char) → Numbers → Option (Node Nat × Numbers)
  | .alias name, numbers =>
    (numbers.find? (·.1 == name)).map fun entry => (.alias entry.2, numbers)
  | .scalar p style text, numbers =>
    let (p, numbers) := numberAnchor p numbers
    some (.scalar p style text, numbers)
  | .sequence p items, numbers => do
    let (p, numbers) := numberAnchor p numbers
    let (items, numbers) ← numberItems items numbers
    return (.sequence p items, numbers)
  | .mapping p pairs, numbers => do
    let (p, numbers) := numberAnchor p numbers
    let (pairs, numbers) ← numberPairs pairs numbers
    return (.mapping p pairs, numbers)

def numberItems : List (Node (List Char)) → Numbers → Option (List (Node Nat) × Numbers)
  | [], numbers => some ([], numbers)
  | n :: ns, numbers => do
    let (n, numbers) ← number n numbers
    let (ns, numbers) ← numberItems ns numbers
    return (n :: ns, numbers)

def numberPairs :
    List (Node (List Char) × Node (List Char)) → Numbers →
      Option (List (Node Nat × Node Nat) × Numbers)
  | [], numbers => some ([], numbers)
  | (k, v) :: ps, numbers => do
    let (k, numbers) ← number k numbers
    let (v, numbers) ← number v numbers
    let (ps, numbers) ← numberPairs ps numbers
    return ((k, v) :: ps, numbers)

end

/-- The nodes with anchors, by number, in the order of the text. -/
abbrev Targets := List (Nat × Node Nat)

/-- A node by its anchor, if it has one. -/
def ownTarget (p : Properties Nat) (n : Node Nat) : Targets :=
  p.anchor.toList.map (·, n)

mutual

/-- The nodes with anchors within a node. -/
def targets : Node Nat → Targets
  | .alias _ => []
  | .scalar p style text => ownTarget p (.scalar p style text)
  | .sequence p items => ownTarget p (.sequence p items) ++ itemTargets items
  | .mapping p pairs => ownTarget p (.mapping p pairs) ++ pairTargets pairs

def itemTargets : List (Node Nat) → Targets
  | [] => []
  | n :: ns => targets n ++ itemTargets ns

def pairTargets : List (Node Nat × Node Nat) → Targets
  | [] => []
  | (k, v) :: ps => targets k ++ targets v ++ pairTargets ps

end

/-- The node that an alias stands for: of those with its number the last one. Any other node stands
for itself. -/
def follow? (table : Targets) : Node Nat → Option (Node Nat)
  | .alias n => (table.reverse.find? (·.1 == n)).map (·.2)
  | n => some n

mutual

/-- The size of a node: one for each scalar and alias, two for each collection. -/
def size : Node Nat → Nat
  | .alias _ => 1
  | .scalar _ _ _ => 1
  | .sequence _ items => 2 + itemSizes items
  | .mapping _ pairs => 2 + pairSizes pairs

def itemSizes : List (Node Nat) → Nat
  | [] => 0
  | n :: ns => size n + itemSizes ns

def pairSizes : List (Node Nat × Node Nat) → Nat
  | [] => 0
  | (k, v) :: ps => size k + size v + pairSizes ps

end

end Node

/-- A document: its node, and the nodes that its aliases refer to. -/
structure Document where
  root : Node Nat
  targets : Node.Targets

/-- The only document of a text; nothing if the text has none. -/
def Document.ofText? (cs : List Char) : Option (Option Document) := do
  let tokens ← Token.ofText? cs
  match ← Node.ofTokens? tokens with
  | none => return none
  | some node =>
    let (root, _) ← node.number []
    return some ⟨root, root.targets⟩

end Conform.Yaml
