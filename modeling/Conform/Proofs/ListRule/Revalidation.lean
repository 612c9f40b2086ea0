import Conform.Proofs.Attempt
import Conform.Proofs.ListRule.Arrangement
import Conform.Proofs.ListRule.Single
import Conform.Proofs.Tag.Forms

/-!
# Validated lists of integers, validated again

What a list of integers is validated to is a list of integers that the tag passes as they are, in the order
that the discipline promises. So it is validated to itself, unless it is a text: then it is one value, from
which the number is read that its characters write, and never the list comes out again. One character is
the text of another number than its code, and of more characters there is one number only.
-/

namespace Conform

open Conform.Text

namespace Tag

variable {symbols : SymbolTable} {tag : Tag} {raw t : Term}

/-- The tags of integers. -/
def Integral : Tag → Prop
  | .integer | .nonnegative | .positive | .range _ _ | .oneOfIntegers _ | .port => True
  | _ => False

theorem Integral.takesItsOwn (h : tag.Integral) : tag.TakesItsOwn := by
  cases tag <;> trivial

/-- The tags of `Integral` are those that ask something of an integer. -/
theorem Integral.exists_accepts (h : tag.Integral) : ∃ accepts, tag.integers? = some accepts := by
  cases tag with
  | integer | nonnegative | positive | range | oneOfIntegers | port => exact ⟨_, rfl⟩
  | _ => cases h

theorem Integral.exists_integer (h : tag.Integral) (canonical : tag.Canonical t) :
    ∃ i, t = .integer i := by
  obtain ⟨accepts, asks⟩ := h.exists_accepts
  obtain ⟨i, rfl, -⟩ := (canonical_integers_iff asks).1 canonical
  exact ⟨i, rfl⟩

/-- A tag of integers gives the integer that it reads. -/
theorem exists_integer_of_validate (integral : tag.Integral) (h : tag.validate symbols raw = .ok t) :
    ∃ i, raw.integer? = some i ∧ t = .integer i := by
  obtain ⟨accepts, asks⟩ := integral.exists_accepts
  obtain ⟨i, read, -, rfl⟩ := exists_of_integers asks h
  exact ⟨i, read, rfl⟩

end Tag

namespace ListRule

open Term

variable {symbols : SymbolTable} {tag : Tag} {v t : Term} {d : Discipline}

section Collect

variable {ε : Type} {step : Term → Except ε (Option Term)} {ts us : List Term}

theorem collect_of_passes (h : ∀ t ∈ ts, step t = .ok (some t)) : collect step ts = .ok ts := by
  have itself : ∀ t ∈ ts, kept step t = some t := fun t ht => by
    rw [kept, h t ht]
    rfl
  rw [collect_of_forall fun t ht => ⟨some t, h t ht⟩, List.filterMap_congr itself, List.filterMap_some]

/-- What is collected is what a step made of an item. -/
theorem exists_of_collect (h : collect step ts = .ok us) (ht : t ∈ us) :
    ∃ raw ∈ ts, step raw = .ok (some t) := by
  have passes : ∀ raw ∈ ts, ∃ o, step raw = .ok o := by
    intro raw hraw
    cases ended : step raw with
    | ok o => exact ⟨o, rfl⟩
    | error e =>
      obtain ⟨e', fails⟩ := collect_of_error hraw ended
      cases fails.symm.trans h
  rw [collect_of_forall passes] at h
  cases h
  obtain ⟨raw, hraw, made⟩ := List.mem_filterMap.1 ht
  obtain ⟨o, ended⟩ := passes raw hraw
  rw [kept, ended] at made
  obtain rfl : o = some t := made
  exact ⟨raw, hraw, ended⟩

end Collect

/-- The step of a list that validates each item against a tag. -/
def itemOf (symbols : SymbolTable) (tag : Tag) (t : Term) : Except Mismatch (Option Term) :=
  (tag.validate symbols t).map some

theorem itemOf_eq_ok_iff {o : Option Term} :
    itemOf symbols tag v = .ok o ↔ ∃ t, tag.validate symbols v = .ok t ∧ o = some t := by
  rw [itemOf, Attempt.map_eq_ok]
  simp only [eq_comm]

/-- What a list is validated to: items that the tag passes, in the order of the discipline. -/
theorem exists_of_validate (h : validate d (itemOf symbols tag) v = .ok t) :
    ∃ items, t = .list items ∧ Arranged items d ∧ ∀ u ∈ items, tag.Canonical u := by
  rw [validate] at h
  cases collected : collect (itemOf symbols tag) (elements v) with
  | error e => rw [collected] at h; cases h
  | ok us =>
    rw [collected] at h
    cases h
    refine ⟨_, rfl, arranged_arrange us d, fun u hu => ?_⟩
    obtain ⟨raw, -, made⟩ := exists_of_collect collected (mem_of_mem_arrange hu)
    obtain ⟨u', valid, same⟩ := itemOf_eq_ok_iff.1 made
    cases same
    exact Tag.canonical_of_validate valid

/-- Such a list is validated to itself if it is no text. -/
theorem validate_itself {items : List Term} (own : tag.TakesItsOwn)
    (canonical : ∀ t ∈ items, tag.Canonical t) (arranged : Arranged items d)
    (sequence : isCharList items = false) :
    validate d (itemOf symbols tag) (.list items) = .ok (.list items) := by
  have passes : ∀ t ∈ items, itemOf symbols tag t = .ok (some t) := fun t ht =>
    itemOf_eq_ok_iff.2 ⟨t, Tag.validate_of_canonical own (canonical t ht) symbols, rfl⟩
  rw [validate, elements_of_not_charList sequence, collect_of_passes passes]
  change Except.ok _ = _
  rw [arrange_of_arranged arranged]

/-! ## Lists of integers -/

/-- A list of integers is taken for text iff it is not empty and each of them is an `IsTextCode`. -/
theorem isCharList_integers (numbers : List Int64) : isCharList (numbers.map .integer) = true ↔
    numbers ≠ [] ∧ ∀ i ∈ numbers, IsTextCode i.toInt := by
  rw [isCharList_iff]
  simp

theorem exists_integers {items : List Term} (h : ∀ t ∈ items, ∃ i, t = .integer i) :
    ∃ numbers : List Int64, items = numbers.map .integer := by
  induction items with
  | nil => exact ⟨[], rfl⟩
  | cons t ts ih =>
    obtain ⟨⟨i, rfl⟩, rest⟩ := List.forall_mem_cons.1 h
    obtain ⟨is, rfl⟩ := ih rest
    exact ⟨i :: is, rfl⟩

theorem arrange_singleton (t : Term) (d : Discipline) : arrange [t] d = [t] := by
  apply arrange_of_arranged
  cases d with
  | ordered => trivial
  | sorted | unique => exact List.pairwise_singleton _ _

/-- The text of one code is not the decimal of the code. -/
theorem integer?_singleton {i : Int64} (code : IsTextCode i.toInt) :
    integer? (.list [.integer i]) ≠ some i := by
  intro read
  have isText : isCharList [.integer i] = true :=
    (isCharList_integers [i]).2 ⟨List.cons_ne_nil _ _, by simpa using code⟩
  obtain ⟨c, char, -⟩ := (Option.any_eq_true _ _).1 (any_isTextChar_iff.2 ⟨i, rfl, code⟩)
  have text : text? (.list [.integer i]) = some (String.ofList [c]) := by
    rw [text?, if_pos isText, List.filterMap_cons, char]
    rfl
  rw [integer?, text, Option.bind_some, String.toList_ofList] at read
  · obtain ⟨j, digits, fits⟩ := Option.bind_eq_some_iff.1 read
    have less := lt_of_readInt_singleton digits
    rw [← toInt64?_eq_some_iff.1 fits, charOf?_eq_some_iff.1 char] at less
    exact absurd less (Int.lt_irrefl _)
  · simp
  · simp

/-- A text is validated to one number at most, which is not the text. -/
theorem validate_text_ne {items : List Term} (integral : tag.Integral)
    (isText : isCharList items = true) :
    validate d (itemOf symbols tag) (.list items) ≠ .ok (.list items) := by
  intro again
  rw [validate_of_single (elements_of_charList isText)] at again
  cases one : itemOf symbols tag (.list items) with
  | error e => rw [one] at again; cases again
  | ok o =>
    obtain ⟨t, valid, rfl⟩ := itemOf_eq_ok_iff.1 one
    obtain ⟨i, read, rfl⟩ := Tag.exists_integer_of_validate integral valid
    rw [one] at again
    have same : arrange [.integer i] d = items := Term.list.inj (Except.ok.inj again)
    rw [arrange_singleton] at same
    subst same
    exact integer?_singleton ((isCharList_integers [i]).1 isText |>.2 i List.mem_cons_self) read

/-- **A validated list of integers is validated to itself if and only if it is no text**: unless it is not
empty and each of its integers is the code of a character that texts have. -/
theorem integers_again_iff (integral : tag.Integral) (h : validate d (itemOf symbols tag) v = .ok t) :
    ∃ numbers : List Int64, t = .list (numbers.map .integer) ∧
      (validate d (itemOf symbols tag) t = .ok t ↔
        ¬(numbers ≠ [] ∧ ∀ i ∈ numbers, IsTextCode i.toInt)) := by
  obtain ⟨items, rfl, arranged, canonical⟩ := exists_of_validate h
  obtain ⟨numbers, rfl⟩ := exists_integers fun t ht => integral.exists_integer (canonical t ht)
  refine ⟨numbers, rfl, ⟨fun again text => ?_, fun sequence => ?_⟩⟩
  · exact validate_text_ne integral ((isCharList_integers numbers).2 text) again
  · refine validate_itself integral.takesItsOwn canonical arranged (Bool.eq_false_iff.2 fun text => ?_)
    exact sequence ((isCharList_integers numbers).1 text)

/-- Three numbers from texts and an integer, in ascending order; zero is the code of no character that
texts have. -/
theorem integers_again_iff_limits :
    let limits : Tag := .range (some 0) none
    let given : Term := .list [.string "0", .integer 7, .string "+70000"]
    let taken : Term := .list [.integer 0, .integer 7, .integer 70000]
    limits.Integral ∧ validate .sorted (itemOf .empty limits) given = .ok taken ∧
      validate .sorted (itemOf .empty limits) taken = .ok taken := by
  intro limits given taken
  have ascends : Arranged [.integer 0, .integer 7, .integer 70000] .sorted :=
    show List.Pairwise _ _ by decide +kernel
  have valid : validate .sorted (itemOf .empty limits) given = .ok taken := by
    have collected : collect (itemOf .empty limits) (elements given)
        = .ok [.integer 0, .integer 7, .integer 70000] := rfl
    rw [validate, collected]
    change Except.ok (Term.list (arrange [.integer 0, .integer 7, .integer 70000] .sorted)) = _
    rw [arrange_of_arranged ascends]
  obtain ⟨numbers, same, again⟩ := integers_again_iff (show limits.Integral from trivial) valid
  have zero : Term.integer 0 ∈ numbers.map .integer :=
    Term.list.inj same ▸ List.mem_cons_self
  refine ⟨trivial, valid, again.2 ?_⟩
  rintro ⟨-, codes⟩
  obtain ⟨i, hi, value⟩ := List.mem_map.1 zero
  obtain rfl := Term.integer.inj value
  exact absurd (codes 0 hi) (by decide)

/-- The number fifty, given as text: the list of it comes back as two, the digit whose code is fifty. -/
theorem again_another_number :
    let step := itemOf .empty .integer
    validate .ordered step (.string "50") = .ok (.list [.integer 50]) ∧
      validate .ordered step (.list [.integer 50]) = .ok (.list [.integer 2]) ∧
      validate .ordered step (.list [.integer 50]) ≠ .ok (.list [.integer 50]) := by
  intro step
  have again : validate .ordered step (.list [.integer 50]) = .ok (.list [.integer 2]) := rfl
  refine ⟨rfl, again, fun same => ?_⟩
  have items : [Term.integer 2] = [.integer 50] := Term.list.inj (Except.ok.inj (again.symm.trans same))
  have number : (2 : Int64) = 50 := Term.integer.inj (List.head_eq_of_cons_eq items)
  exact absurd number (by decide)

end ListRule

end Conform
