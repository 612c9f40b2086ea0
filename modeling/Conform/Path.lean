import Conform.Term.Basic

/-!
# Dotted paths

Where a field stands in nested input: the names of the keys that lead to it, with points between
them. The path of the top is empty unless a base is put in front.

This is `DottedPath`.
-/

namespace Conform

/-- A `DottedPath`, as text. -/
structure Path where
  text : String
deriving DecidableEq

namespace Path

/-- The path of a field of a level (`DottedPath::child`). -/
def child (p : Path) (key : Key) : Path :=
  if p.text.isEmpty then ⟨key.name⟩ else ⟨p.text ++ "." ++ key.name⟩

def descend (p : Path) (keys : List Key) : Path :=
  keys.foldl child p

/-- The paths of a succession of keys, the start included. -/
def steps (p : Path) : List Key → List Path
  | [] => [p]
  | k :: ks => p :: steps (p.child k) ks

end Path

end Conform
