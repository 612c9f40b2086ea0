import Conform.Text.Composed
import Conform.Text.Hidden
import Conform.Text.Split
import Conform.Text.Utf8
import Conform.Uri.Folding
import Conform.Uri.Joining
import Conform.Uri.Punycode

/-!
# Domain names

The ASCII form of a domain name: letters folded and composed, labels beyond ASCII in Punycode.
Characters that would end a host or have no glyph of their own are refused, and so is a label that
begins with a mark, one with a joiner where nothing is to be joined (`validJoiner`), and one that breaks
the Bidi rule in a name that runs right to left (`keepsOrder`).

The tables of letters are those of Unicode 14, and of Unicode 15 for directions and joining; of later letters
only those count that have a glyph (`isHidden`).
-/

namespace Conform.Uri

open Conform.Text

/-- The ASCII characters that no domain name may have. -/
def deniedInDomain (c : Char) : Bool :=
  decide (c.toNat ≤ 0x20) || c.toNat == 0x7F || "%#/:<>?@[\\]^|".toList.contains c

/-- A character beyond ASCII that may stand in a folded label. -/
def isLabelLetter (c : Char) : Bool :=
  (isMark c || !isHidden c) && foldLetter c == [c]
    && !inRanges [(0x2FF0, 0x2FFB), (0xFFFC, 0xFFFD)] c.toNat

/-- Whether the characters may stand in a label behind others, which come in reverse. -/
def validFrom (before : List Char) : List Char → Bool
  | [] => true
  | c :: cs =>
    let valid :=
      if c.toNat < 0x80 then !deniedInDomain c
      else if c = '\u200c' ∨ c = '\u200d' then validJoiner c before cs
      else isLabelLetter c
    valid && validFrom (c :: before) cs

/-- Whether a label is folded, composed and free of denied characters. -/
def validLabel (label : List Char) : Bool :=
  !(label.head?.any isMark) && validFrom [] label && composedForm label == label

/-- What marks a label as the ASCII form of another. -/
def aceMark : List Char := "xn--".toList

/-- A label: its letters, and its ASCII form. -/
structure Label where
  letters : List Char
  ascii : List Char

/-- The label of folded characters. One that is marked as the ASCII form of another has to be that form. -/
def Label.ofFolded? (cs : List Char) : Option Label :=
  if !validLabel cs then none
  else if cs.any fun c => decide (0x80 ≤ c.toNat) then some ⟨cs, aceMark ++ Punycode.encode cs⟩
  else if aceMark.isPrefixOf cs then
    (Punycode.decode? (cs.drop aceMark.length)).bind fun decoded =>
      if (decoded.any fun c => decide (0x80 ≤ c.toNat)) && validLabel decoded
          && aceMark ++ Punycode.encode decoded == cs
      then some ⟨decoded, cs⟩ else none
  else some ⟨cs, cs⟩

/-- Whether labels may stand together: if the letters of one turn the name, `keepsOrder` holds of all. -/
def keepOrder (labels : List Label) : Bool :=
  labels.all (fun l => keepsOrder l.letters) || !labels.any (·.letters.any turnsName)

/-- The ASCII form of a domain name given as bytes: `domain_to_ascii`. -/
def domainToAscii? (bytes : List UInt8) : Option (List Char) :=
  (Utf8.decode bytes).bind fun cs =>
    let folded := composedForm (cs.flatMap foldLetter)
    (((pieces '.' folded).mapM Label.ofFolded?).filter keepOrder).map fun labels =>
      List.intercalate ['.'] (labels.map Label.ascii)

end Conform.Uri
