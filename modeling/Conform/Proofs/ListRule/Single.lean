import Conform.Proofs.ListRule
import Conform.Proofs.Term.TextCode
import Conform.Tag.Validation

/-!
# One value and the list of it

A value alone is validated as the list of it is, with one exception: an integer that is the code of a
character that texts have. The list of it is not a list of one value but a text of one character, so the
step is asked about the list and not about the integer.
-/

namespace Conform

namespace ListRule

open Term

variable {v : Term}

/-- An integer that is such a code. -/
def IsCode (v : Term) : Prop :=
  ∃ i, v = .integer i ∧ IsTextCode i.toInt

/-- A value that is no list stands for the list of itself. -/
theorem elements_of_scalar (scalar : ∀ items, v ≠ .list items) : elements v = [v] := by
  cases v with
  | list items => exact absurd rfl (scalar items)
  | _ => rfl

/-- A list of one element is that list, unless the element is a character's code. -/
theorem elements_singleton (code : ¬IsCode v) : elements (.list [v]) = [v] := by
  have sequence : isCharList [v] = false := by
    rw [Bool.eq_false_iff]
    intro text
    exact code ((isCharList_iff.1 text).2 v List.mem_cons_self)
  exact elements_of_not_charList sequence

/-- A character's code alone in a list reads as text, so that the list as a whole becomes the one
element. -/
theorem elements_singleton_code (code : IsCode v) : elements (.list [v]) = [.list [v]] := by
  have text : isCharList [v] = true := by
    refine isCharList_iff.2 ⟨List.cons_ne_nil _ _, fun t ht => ?_⟩
    obtain rfl := List.mem_singleton.1 ht
    exact code
  exact elements_of_charList text

/-- **One value is validated as the list of it** if and only if it is not the code of a character that
texts have: whatever the discipline and the step are, and whatever else the step does, it is asked about
the value both times. With such a code the step is asked about the integer alone, and about the list of
it as one text. -/
theorem single_as_list_iff (scalar : ∀ items, v ≠ .list items) :
    ((∀ (m : Type → Type) [Monad m] (d : Discipline) (step : Term → m (Option Term)),
        validate d step v = validate d step (.list [v])) ↔ ¬IsCode v) ∧
      elements v = [v] ∧ (¬IsCode v → elements (.list [v]) = [v]) ∧
      (IsCode v → elements (.list [v]) = [.list [v]]) := by
  have alone := elements_of_scalar scalar
  refine ⟨⟨?_, ?_⟩, alone, elements_singleton, elements_singleton_code⟩
  · -- A step that takes numbers only tells the integer from the text.
    intro same code
    let number (t : Term) : Option (Option Term) := if t.rank = 0 then some none else none
    obtain ⟨i, rfl, -⟩ := id code
    have differ := same Option .ordered number
    rw [validate, validate, alone, elements_singleton_code code] at differ
    cases differ
  · intro code m _ d step
    rw [validate, validate, alone, elements_singleton code]

/-- The first of the surrogates, which are no characters. -/
theorem single_as_list_iff_surrogate :
    let v : Term := .integer 0xD800
    let asText (t : Term) : Except Mismatch (Option Term) := (Tag.string.validate .empty t).map some
    (∀ items, v ≠ .list items) ∧ ¬IsCode v ∧ elements (.list [v]) = [v] ∧
      validate .unique asText v = validate .unique asText (.list [v]) := by
  intro v asText
  have scalar : ∀ items, v ≠ .list items := by simp [v]
  have code : ¬IsCode v := by
    rintro ⟨i, same, code⟩
    obtain rfl := Term.integer.inj same
    exact absurd code (by decide)
  obtain ⟨agree, -, sequence, -⟩ := single_as_list_iff scalar
  exact ⟨scalar, code, sequence code, agree.2 code _ .unique asText⟩

/-- The port 80 is taken alone, and the list of it is refused: it is the letter P. -/
theorem port_not_as_list :
    let v : Term := .integer 80
    let asPort (t : Term) : Except Mismatch (Option Term) := (Tag.port.validate .empty t).map some
    (∀ items, v ≠ .list items) ∧ validate .ordered asPort v = .ok (.list [v]) ∧
      (validate .ordered asPort (.list [v])).toOption = none ∧
      validate .ordered asPort v ≠ validate .ordered asPort (.list [v]) := by
  intro v asPort
  have refused : (validate .ordered asPort (.list [v])).toOption = none :=
    Option.isNone_iff_eq_none.1 (by decide +kernel)
  have taken : validate .ordered asPort v = .ok (.list [v]) := rfl
  refine ⟨by simp [v], taken, refused, fun same => ?_⟩
  rw [← same, taken] at refused
  cases refused

end ListRule

end Conform
