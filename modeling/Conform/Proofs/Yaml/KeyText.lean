import Conform.Proofs.Binary64.Text
import Conform.Proofs.Yaml.Inside

/-!
# Texts of keys

A number or a truth value that is a key becomes a text, and no other number or truth value becomes the same
one: an integer is read back from its text, a finite float from its own, and the kinds are told apart by the
marks in them. So two keys become one name only where one is a string that spells the other.
-/

namespace Conform.Yaml

open Conform.Text

variable {x y : Binary64} {a b : Yaml} {name : String}

/-! ## Texts of numbers -/

def infinityText (negative : Bool) : String :=
  if negative then "-.inf" else ".inf"

/-- A float is read back from its text, or this is a word that no number is read from. -/
theorem floatText_cases (x : Binary64) :
    Binary64.read? (floatText x).toList = some x ∧ x.isFinite = true ∨
      Binary64.read? (floatText x).toList = none ∧
        (floatText x = ".nan" ∧ x.isNan = true ∨
          ∃ negative, floatText x = infinityText negative ∧ x = .infinity negative) := by
  unfold floatText
  rcases Nat.lt_trichotomy x.magnitude Binary64.infiniteMagnitude with less | same | more
  · have finite : x.isFinite = true := decide_eq_true less
    exact .inl ⟨Binary64.read_write .documented finite, finite⟩
  · have number : ¬x.isNan = true := by simp [Binary64.isNan, same]
    have self : x = .infinity x.negative := by
      rw [Binary64.infinity, ← same, Binary64.ofMagnitude_self]
    have word : Binary64.write .documented x = infinityText x.negative := by
      rw [Binary64.write, if_neg number]
      dsimp only
      rw [Binary64.isInfinite, if_pos (beq_iff_eq.2 same)]
      cases x.negative <;> rfl
    have unread (negative : Bool) : Binary64.read? (infinityText negative).toList = none := by
      cases negative <;> decide
    exact .inr ⟨word ▸ unread _, .inr ⟨x.negative, word, self⟩⟩
  · have nan : x.isNan = true := decide_eq_true more
    have word : Binary64.write .documented x = ".nan" := if_pos nan
    have unread : Binary64.read? ".nan".toList = none := by decide
    exact .inr ⟨word ▸ unread, .inl ⟨word, nan⟩⟩

theorem same_float_self (x : Binary64) : same (.float x) (.float x) = true := by
  cases nan : x.isNan <;> simp [same, Binary64.same, nan]

/-- Floats of one text are equal. -/
theorem same_of_floatText (h : floatText x = floatText y) : same (.float x) (.float y) = true := by
  have words (negative : Bool) : infinityText negative ≠ ".nan" := by cases negative <;> decide
  have signs (m n : Bool) : infinityText m = infinityText n → m = n := by
    cases m <;> cases n <;> decide
  rcases floatText_cases x with ⟨read, -⟩ | ⟨none, word⟩ <;>
    rcases floatText_cases y with ⟨read', -⟩ | ⟨none', word'⟩
  · rw [h, read'] at read
    obtain rfl := Option.some.inj read
    exact same_float_self _
  · rw [h, none'] at read
    cases read
  · rw [h, read'] at none
    cases none
  · rcases word with ⟨text, nan⟩ | ⟨m, text, rfl⟩ <;> rcases word' with ⟨text', nan'⟩ | ⟨n, text', rfl⟩ <;>
      rw [text, text'] at h
    · simp [same, nan, nan']
    · exact absurd h.symm (words n)
    · exact absurd h (words m)
    · obtain rfl := signs m n h
      exact same_float_self _

/-- The text of a float has a point or an exponent in it. -/
theorem marked_floatText (x : Binary64) : '.' ∈ (floatText x).toList ∨ 'e' ∈ (floatText x).toList := by
  have word (negative : Bool) : '.' ∈ (infinityText negative).toList := by cases negative <;> decide
  rcases floatText_cases x with ⟨-, finite⟩ | ⟨-, ⟨text, -⟩ | ⟨negative, text, -⟩⟩
  · have marked := (Binary64.spells_unsigned .documented x).marked
    rw [floatText, Binary64.toList_write .documented finite]
    exact marked.imp (List.mem_append_right _) (List.mem_append_right _)
  · rw [text]
    decide
  · rw [text]
    exact .inl (word negative)

/-- An integer is written with digits and a sign only. -/
theorem unmarked_decimalInt (i : Int) : '.' ∉ (decimalInt i).toList ∧ 'e' ∉ (decimalInt i).toList := by
  have free {c : Char} (other : isDigit c = false) (sign : c ≠ '-') : c ∉ (decimalInt i).toList := by
    intro mem
    have digit : c ∈ Nat.toDigits 10 i.natAbs := by
      unfold decimalInt at mem
      split at mem
      · rw [String.toList_ofList] at mem
        exact (List.mem_cons.1 mem).resolve_left sign
      · rwa [decimal, String.toList_ofList] at mem
    rw [isDigit_toDigits _ c digit] at other
    cases other
  exact ⟨free rfl (by decide), free rfl (by decide)⟩

/-! ## Keys -/

def truthText (b : Bool) : String :=
  if b then "true" else "false"

theorem truthText_injective {m n : Bool} : truthText m = truthText n → m = n := by
  cases m <;> cases n <;> decide

/-- A float is written with a point, an exponent or a word, and so never like an integer; a boolean
is like neither. -/
theorem floatText_ne_decimalInt (x : Binary64) (i : Int) : floatText x ≠ decimalInt i := by
  intro same
  have marked := marked_floatText x
  rw [same] at marked
  exact marked.elim (unmarked_decimalInt i).1 (unmarked_decimalInt i).2

theorem truthText_ne_decimalInt (b : Bool) (i : Int) : truthText b ≠ decimalInt i := by
  have marked : 'e' ∈ (truthText b).toList := by cases b <;> decide
  exact fun same => (unmarked_decimalInt i).2 (same ▸ marked)

theorem truthText_ne_floatText (b : Bool) (x : Binary64) : truthText b ≠ floatText x := by
  have unread : Binary64.read? (truthText b).toList = none := by cases b <;> decide
  have nan : truthText b ≠ ".nan" := by cases b <;> decide
  have infinity (negative : Bool) : truthText b ≠ infinityText negative := by
    cases b <;> cases negative <;> decide
  intro same
  rcases floatText_cases x with ⟨read, -⟩ | ⟨-, ⟨text, -⟩ | ⟨negative, text, -⟩⟩
  · rw [← same, unread] at read
    cases read
  · exact nan (same.trans text)
  · exact infinity negative (same.trans text)

theorem decimalInt_injective {i j : Int} (h : decimalInt i = decimalInt j) : i = j := by
  have read := readInt_decimalInt i
  rw [h, readInt_decimalInt] at read
  exact (Option.some.inj read).symm

/-- Numbers and truth values of one text are equal. -/
theorem same_of_literals (ha : a.isLiteral = true) (hb : b.isLiteral = true)
    (h : Term.keyOfYaml a = Term.keyOfYaml b) : same a b = true := by
  cases a with
  | boolean m =>
    cases b with
    | boolean n =>
      obtain rfl := truthText_injective (Except.ok.inj h)
      simp [same]
    | integer j => exact absurd (Except.ok.inj h) (truthText_ne_decimalInt m j)
    | float y => exact absurd (Except.ok.inj h) (truthText_ne_floatText m y)
    | null | string | sequence | mapping | tagged => cases hb
  | integer i =>
    cases b with
    | boolean n => exact absurd (Except.ok.inj h).symm (truthText_ne_decimalInt n i)
    | integer j =>
      obtain rfl := decimalInt_injective (Except.ok.inj h)
      simp [same]
    | float y => exact absurd (Except.ok.inj h).symm (floatText_ne_decimalInt y i)
    | null | string | sequence | mapping | tagged => cases hb
  | float x =>
    cases b with
    | boolean n => exact absurd (Except.ok.inj h).symm (truthText_ne_floatText n x)
    | integer j => exact absurd (Except.ok.inj h) (floatText_ne_decimalInt x j)
    | float y => exact same_of_floatText (Except.ok.inj h)
    | null | string | sequence | mapping | tagged => cases hb
  | null | string | sequence | mapping | tagged => cases ha

/-- A key that becomes a text is a string, a number or a truth value. -/
theorem key_cases (h : Term.keyOfYaml a = .ok name) : a = .string name ∨ a.isLiteral = true := by
  cases a with
  | string s => exact .inl (congrArg string (Except.ok.inj h))
  | boolean | integer | float => exact .inr rfl
  | null | sequence | mapping | tagged => cases h

/-- Different keys become one name only if one of them is a string that spells the other. -/
theorem spelled_of_same_name (ha : Term.keyOfYaml a = .ok name) (hb : Term.keyOfYaml b = .ok name)
    (apart : same a b = false) :
    a.isLiteral = true ∧ b = .string name ∨ b.isLiteral = true ∧ a = .string name := by
  rcases key_cases ha with rfl | literal <;> rcases key_cases hb with rfl | literal'
  · simp [same] at apart
  · exact .inr ⟨literal', rfl⟩
  · exact .inl ⟨literal, rfl⟩
  · rw [same_of_literals literal literal' (ha.trans hb.symm)] at apart
    cases apart

end Conform.Yaml
