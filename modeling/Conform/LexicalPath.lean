import Conform.Text.Split

/-!
# Lexical paths

Paths of a file system in normal form, found from the text alone: no empty segments, no segments of
one dot, and two dots take the segment in front of them away. At the start of a relative path two
dots stay; at the root they vanish.

This is `normalize_path`.
-/

namespace Conform.LexicalPath

open Conform.Text

/-- The step of `normalize_path`: takes a segment to those kept so far, the nearest first. -/
def resolve (absolute : Bool) (kept : List (List Char)) (segment : List Char) :
    List (List Char) :=
  if segment = [] ∨ segment = ['.'] then kept
  else if segment = ['.', '.'] then
    match kept with
    | [] => if absolute then [] else [['.', '.']]
    | last :: rest =>
      if last ≠ ['.', '.'] then rest else if absolute then kept else ['.', '.'] :: kept
  else segment :: kept

/-- The normal form (`normalize_path`); an empty text has none. -/
def normalize? (cs : List Char) : Option (List Char) :=
  if cs.isEmpty then none
  else
    let absolute := cs.head? == some '/'
    let kept := ((pieces '/' cs).foldl (resolve absolute) []).reverse
    let joined := List.intercalate ['/'] kept
    if absolute then some ('/' :: joined)
    else if joined.isEmpty then some ['.']
    else some joined

end Conform.LexicalPath
