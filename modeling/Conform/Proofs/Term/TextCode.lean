import Conform.Term.Views

/-!
# Codes of characters

An integer is the code of a character if it is a code point and no surrogate, and a text has the character
if it is printable or one of seven controls. A list of such codes is a text.
-/

namespace Conform.Term

open Conform.Text

/-- The integers that are codes of characters that texts have: the seven controls among them, and the
printable code points, without the surrogates. -/
def IsTextCode (i : Int) : Prop :=
  8 ≤ i ∧ i ≤ 13 ∨ i = 27 ∨ 32 ≤ i ∧ i ≤ 126 ∨ 160 ≤ i ∧ i ≤ 0xD7FF ∨ 0xE000 ≤ i ∧ i ≤ 0x10FFFF

instance (i : Int) : Decidable (IsTextCode i) :=
  inferInstanceAs (Decidable (_ ∨ _))

/-- The characters that a list may hold to be taken for text, by their codes. -/
theorem isTextChar_iff (c : Char) : isTextChar c = true ↔ IsTextCode c.toNat := by
  have valid : c.toNat.isValidChar := c.valid
  simp only [Nat.isValidChar] at valid
  simp only [isTextChar, isControl, IsTextCode, Bool.or_eq_true, Bool.not_eq_true', Bool.or_eq_false_iff,
    Bool.and_eq_false_iff, decide_eq_false_iff_not, List.contains_cons, List.contains_nil, beq_iff_eq,
    ← Char.toNat_inj, Char.reduceToNat, Bool.false_eq_true, or_false]
  omega

/-- An integer is read as the character whose code it is. -/
theorem charOf?_eq_some_iff {i : Int64} {c : Char} :
    charOf? (.integer i) = some c ↔ i.toInt = c.toNat := by
  have valid : c.toNat.isValidChar := c.valid
  rw [charOf?]
  by_cases nonneg : 0 ≤ i.toInt
  · rw [if_pos nonneg]
    by_cases point : i.toInt.toNat.isValidChar
    · rw [dif_pos point, Option.some_inj, ← Char.toNat_inj]
      change i.toInt.toNat = c.toNat ↔ _
      omega
    · rw [dif_neg point]
      refine ⟨nofun, fun code => absurd ?_ point⟩
      rwa [code, Int.toNat_natCast]
  · rw [if_neg nonneg]
    exact ⟨nofun, fun code => by omega⟩

/-- The code of a character is read back as the character. -/
theorem charOf?_code (c : Char) : charOf? (.integer (Int64.ofNat c.toNat)) = some c := by
  have valid : c.toNat.isValidChar := c.valid
  simp only [Nat.isValidChar] at valid
  exact charOf?_eq_some_iff.2 (Int64.toInt_ofNat_of_lt (by omega))

/-- The code of a character that texts have is no other integer. -/
theorem any_isTextChar_iff {t : Term} :
    (charOf? t).any isTextChar = true ↔ ∃ i, t = .integer i ∧ IsTextCode i.toInt := by
  rw [Option.any_eq_true]
  constructor
  · rintro ⟨c, char, text⟩
    cases t with
    | integer i =>
      refine ⟨i, rfl, ?_⟩
      rw [charOf?_eq_some_iff.1 char]
      exact (isTextChar_iff c).1 text
    | _ => cases char
  · rintro ⟨i, rfl, code⟩
    have point : i.toInt.toNat.isValidChar := by
      unfold IsTextCode at code
      simp only [Nat.isValidChar]
      omega
    have same : i.toInt = (Char.ofNatAux i.toInt.toNat point).toNat := by
      unfold IsTextCode at code
      change i.toInt = (i.toInt.toNat : Int)
      omega
    exact ⟨_, charOf?_eq_some_iff.2 same, (isTextChar_iff _).2 (same ▸ code)⟩

/-- A list is a text if it is not empty and all its items are such codes. -/
theorem isCharList_iff {items : List Term} :
    isCharList items = true ↔ items ≠ [] ∧ ∀ t ∈ items, ∃ i, t = .integer i ∧ IsTextCode i.toInt := by
  rw [isCharList, Bool.and_eq_true, List.all_eq_true]
  simp only [any_isTextChar_iff, Bool.not_eq_true', List.isEmpty_eq_false_iff, ne_eq]

end Conform.Term
