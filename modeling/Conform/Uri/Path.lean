import Conform.Uri.Percent
import Conform.Text.Split

/-!
# Paths of URIs

A hierarchical path is built segment by segment: a segment of one dot, plain or escaped, adds
nothing, a segment of two dots takes the segment before it away. A drive letter, the first segment
of a local file's path, stays.
-/

namespace Conform.Uri

open Conform.Text

/-- How a scheme is read: local files, the other schemes that the web gives a meaning to, and all
the rest. -/
inductive Family where
  | file
  | web
  | plain
deriving DecidableEq

def Family.ofScheme (scheme : String) : Family :=
  if scheme = "file" then .file
  else if ["http", "https", "ws", "wss", "ftp"].contains scheme then .web
  else .plain

/-- Families in which a backslash separates segments and the host is folded. -/
def Family.isSpecial (f : Family) : Bool :=
  f != .plain

namespace Path

/-- A letter and a colon or bar, at the end of the text or before a separator. -/
def startsWithDrive : List Char → Bool
  | a :: b :: rest =>
    isLetter a && (b == ':' || b == '|')
      && (match rest with
          | [] => true
          | c :: _ => c == '/' || c == '\\' || c == '?' || c == '#')
  | _ => false

/-- A letter and a colon or bar, and nothing else. -/
def isDrive (cs : List Char) : Bool :=
  cs.length == 2 && startsWithDrive cs

def isNormalDrive (cs : List Char) : Bool :=
  isDrive cs && cs[1]? == some ':'

/-- The text up to and with the last slash, and what follows it. -/
def splitAtLastSlash (cs : List Char) : List Char × List Char :=
  let tail := (cs.reverse.takeWhile (· != '/')).reverse
  (cs.take (cs.length - tail.length), tail)

/-- Whether the slash at the end of a path may go together with the segment before it: not the
first slash, nor the one behind a drive letter. -/
def slashRemovable (cs : List Char) : Bool :=
  let (upTo, tail) := splitAtLastSlash cs.dropLast
  !upTo.isEmpty && !startsWithDrive (tail ++ ['/'])

/-- Takes the text behind the last slash away, unless it is the drive letter of a file. -/
def shorten (family : Family) (cs : List Char) : List Char :=
  if family == .file && isNormalDrive cs then cs
  else
    let (upTo, tail) := splitAtLastSlash cs
    if upTo.isEmpty || (family == .file && isNormalDrive tail) then cs else upTo

/-- A path under construction, and whether the host in front of it still counts. -/
structure Draft where
  path : List Char
  keepsHost : Bool

/-- The path with a slash at its end. -/
def closed (cs : List Char) : List Char :=
  if cs.getLast? = some '/' then cs else cs ++ ['/']

/-- The segment with every escaped dot written as a dot. -/
def plainDots : List Char → List Char
  | '%' :: '2' :: 'e' :: cs => '.' :: plainDots cs
  | '%' :: '2' :: 'E' :: cs => '.' :: plainDots cs
  | c :: cs => c :: plainDots cs
  | [] => []

def parent (family : Family) (path : List Char) : List Char :=
  let path := if path.getLast? = some '/' && slashRemovable path then path.dropLast else path
  shorten family path

/-- Adds a segment; `last` tells that no slash follows it. -/
def addSegment (family : Family) (d : Draft) (segment : List Char) (last : Bool) : Draft :=
  let segment := escape pathSet segment
  let dots := plainDots segment
  if dots = ['.', '.'] then
    let path := parent family d.path
    { d with path := if last then path else closed path }
  else if dots = ['.'] then { d with path := closed d.path }
  else
    let slash := if last then [] else ['/']
    if family == .file && d.path.length == 1 && isDrive segment then
      { path := d.path ++ segment.take 1 ++ ':' :: slash, keepsHost := false }
    else { d with path := d.path ++ segment ++ slash }

def addSegments (family : Family) : Draft → List (List Char) → Draft
  | d, [] => d
  | d, [segment] => addSegment family d segment true
  | d, segment :: segments => addSegments family (addSegment family d segment false) segments

/-- The segments of a text: between slashes, and between backslashes where these separate. -/
def segments (family : Family) (cs : List Char) : List (List Char) :=
  pieces '/' (if family.isSpecial then cs.map fun c => if c = '\\' then '/' else c else cs)

/-- The path that a text adds to a start. The path of a file has one slash in front. -/
def build (family : Family) (start cs : List Char) : Draft :=
  let d := addSegments family ⟨start, true⟩ (segments family cs)
  if family == .file then { d with path := '/' :: d.path.dropWhile (· == '/') } else d

end Path

end Conform.Uri
