import Conform.Proofs.Level.Agree
import Conform.Proofs.Level.Equations
import Conform.Proofs.ListRule
import Conform.Proofs.Tag.Canonical
import Conform.Proofs.Term.TextCode
import Conform.Proofs.Text.Utf8

/-!
# Forms of one text

A text may be given as a string, as its bytes in UTF-8, as the list of its code points or as an atom. Tags
look at what they are given through its text, its string or its bytes, and these are the same for every
form, so every tag makes the same of all of them. Two things set the forms apart: a number is not read out
of an atom, and a tag for anything keeps what it is given. A list rule takes each form for one value, also
the list of code points, so it does not tell them apart either.
-/

namespace Conform

open Conform.Text

namespace Term

/-! ## Code points -/

def codes (s : String) : List Term :=
  s.toList.map fun c => .integer (Int64.ofNat c.toNat)

/-- A text that a list of code points can stand for: it is not empty and printable throughout. -/
structure Printable (s : String) : Prop where
  nonempty : s ≠ ""
  printable : ∀ c ∈ s.toList, isTextChar c = true

variable {s : String}

theorem isCharList_codes (h : Printable s) : isCharList (codes s) = true := by
  have nonempty : (codes s).isEmpty = false := by
    rw [codes, List.isEmpty_map]
    exact Bool.eq_false_iff.2 fun empty => h.nonempty (String.toList_inj.1 (List.isEmpty_iff.1 empty))
  rw [isCharList, nonempty, Bool.not_false, Bool.true_and, codes, List.all_map, List.all_eq_true]
  intro c hc
  rw [Function.comp_apply, charOf?_code, Option.any_some]
  exact h.printable c hc

theorem text?_codes (h : Printable s) : text? (.list (codes s)) = some s := by
  have chars : (codes s).filterMap charOf? = s.toList := by
    rw [codes, List.filterMap_map]
    simp only [Function.comp_def, charOf?_code, List.filterMap_some]
  simp only [text?, isCharList_codes h, if_true, chars, String.ofList_toList]

theorem codes_ne_nil (h : Printable s) : codes s ≠ [] := by
  intro empty
  have := isCharList_codes h
  rw [empty] at this
  cases this

/-! ## What a term is taken for -/

theorem text?_string (s : String) : text? (.string s) = some s := rfl

/-- What a term that stands for a text is taken for: all that tags look at. -/
structure ReadsAs (s : String) (t : Term) : Prop where
  text : t.text? = some s
  string : t.string? = some s
  bytes : t.bytes? = some (Utf8.encode s.toList)
  boolean : t.boolean? = (Term.string s).boolean?
  mapless : t.isMapShaped = false
  single : ListRule.elements t = [t]

theorem readsAs_string (s : String) : ReadsAs s (.string s) :=
  ⟨rfl, rfl, rfl, rfl, rfl, rfl⟩

theorem readsAs_atom (s : String) : ReadsAs s (.atom ⟨s⟩) :=
  ⟨rfl, rfl, rfl, rfl, rfl, rfl⟩

theorem readsAs_bytes (s : String) : ReadsAs s (.binary (Utf8.encode s.toList)) := by
  have text : text? (.binary (Utf8.encode s.toList)) = some s := by
    rw [text?, Utf8.decode_encode, Option.map_some, String.ofList_toList]
  exact ⟨text, text, rfl, by simp only [boolean?, text, text?_string], rfl, rfl⟩

/-- The codes of a printable text read as it wherever a text, a key, a string or pairs are asked
for. -/
theorem readsAs_codes (h : Printable s) : ReadsAs s (.list (codes s)) := by
  have text := text?_codes h
  have isText := isCharList_codes h
  have string : string? (.list (codes s)) = some s := by
    rw [string?, text]
    · exact nofun
    · exact fun empty => codes_ne_nil h (Term.list.inj empty)
  refine ⟨text, string, ?_, by simp only [boolean?, text, text?_string], ?_, ?_⟩
  · simp only [bytes?, string, Option.map_some]
  · -- A code point is no pair.
    rw [isMapShaped, codes]
    cases hs : s.toList with
    | nil => exact absurd (String.toList_inj.1 hs) h.nonempty
    | cons c cs => rfl
  · exact ListRule.elements_of_charList isText

/-- What such a term is taken for by tags that read a number: not so an atom. -/
structure ReadsNumbers (s : String) (t : Term) : Prop where
  integer : t.integer? = (Term.string s).integer?
  float : t.float? = (Term.string s).float?

theorem readsNumbers_bytes (s : String) : ReadsNumbers s (.binary (Utf8.encode s.toList)) := by
  have text := (readsAs_bytes s).text
  exact ⟨by simp only [integer?, text, text?_string], by simp only [float?, text, text?_string]⟩

theorem readsNumbers_codes (h : Printable s) : ReadsNumbers s (.list (codes s)) := by
  have text := text?_codes h
  exact ⟨by simp only [integer?, text, text?_string], by simp only [float?, text, text?_string]⟩

end Term

namespace Tag

open Term

/-- The tags that read a number. -/
def Numeric : Tag → Prop
  | .integer | .nonnegative | .positive | .range _ _ | .oneOfIntegers _ | .port | .float => True
  | _ => False

/-- The forms in which a text may be given to a tag. -/
inductive FormOf (s : String) (tag : Tag) : Term → Prop where
  | string : FormOf s tag (.string s)
  | bytes : FormOf s tag (.binary (Utf8.encode s.toList))
  | codes : FormOf s tag (.list (codes s))
  | atom : ¬tag.Numeric → FormOf s tag (.atom ⟨s⟩)

variable {s : String} {tag : Tag} {t u : Term} {symbols : SymbolTable}

/-- All forms of a text read as the text. -/
theorem FormOf.readsAs (h : Printable s) (ht : FormOf s tag t) : ReadsAs s t := by
  cases ht with
  | string => exact readsAs_string s
  | bytes => exact readsAs_bytes s
  | codes => exact readsAs_codes h
  | atom => exact readsAs_atom s

/-- The forms a numeric tag takes read as the same number or as none. -/
theorem FormOf.readsNumbers (h : Printable s) (ht : FormOf s tag t) (numeric : tag.Numeric) :
    ReadsNumbers s t := by
  cases ht with
  | string => exact ⟨rfl, rfl⟩
  | bytes => exact readsNumbers_bytes s
  | codes => exact readsNumbers_codes h
  | atom not => exact absurd numeric not

/-- Every tag but `any` gives the same for all forms of a text. -/
theorem toOption_validate (h : Printable s) (interned : ⟨s⟩ ∈ symbols.symbols) (any : tag ≠ .any)
    (ht : FormOf s tag t) :
    (tag.validate symbols t).toOption = (tag.validate symbols (.string s)).toOption := by
  have reads := ht.readsAs h
  have plain := readsAs_string s
  have numbers := ht.readsNumbers h
  have existing : symbols.existing? s = some ⟨s⟩ :=
    SymbolTable.existing?_eq_some_iff.2 ⟨rfl, interned⟩
  cases ht with
  | string => rfl
  | bytes | codes | atom =>
    cases tag with
    | any => exact absurd rfl any
    | function => rfl
    | map => simp only [validate, reads.mapless, plain.mapless]; rfl
    | atom => simp only [validate, reads.text, plain.text, Option.bind_some, existing, Option.map_some]
    | enumeration | uri | tokens | base64 | base64Url | timestamp =>
      simp only [validate, reads.text, plain.text]
    | host6 =>
      simp only [validate, host?, reads.string, plain.string]
      split
      · rfl
      · split <;> rfl
    | integer | nonnegative | positive | range | oneOfIntegers | port | float =>
      have numbers := numbers trivial
      simp only [validate, integerWhere?, numbers.integer, numbers.float]
      split <;> rfl
    | _ =>
      simp only [validate, host?, reads.text, plain.text, reads.string, plain.string, reads.bytes,
        plain.bytes, reads.boolean]
      split <;> rfl

end Tag

/-! ## Lists of one value -/

/-- A value that is its own only element makes a list of what it gives. -/
theorem ListRule.validate_of_single {ε : Type} {t : Term} (single : ListRule.elements t = [t])
    (d : Discipline) (step : Term → Except ε (Option Term)) :
    ListRule.validate d step t =
      (step t).map fun o => .list (ListRule.arrange o.toList d) := by
  rw [ListRule.validate, single, ListRule.collect, ListRule.collect]
  rcases step t with e | _ | v <;> rfl

/-- Two runs under these symbols, which they leave as they are, either both fail or come to the same. -/
abbrev Run.SameOutcome {α : Type} (symbols : SymbolTable) (x y : Run α) : Prop :=
  Run.Agree symbols (fun _ _ => True) (· = ·) x y

/-- A list rule does not tell two values apart that the rule within does not tell apart, if both are
taken for one value. -/
theorem Dispatch.sameOutcome_list {symbols : SymbolTable} {inner : Dispatch} {key : Key} {t u : Term}
    {level : Level} (ht : ListRule.elements t = [t]) (hu : ListRule.elements u = [u]) (d : Discipline)
    (h : Run.SameOutcome symbols (inner key t level) (inner key u level)) :
    Run.SameOutcome symbols (Dispatch.list d inner key t level) (Dispatch.list d inner key u level) := by
  unfold Dispatch.list
  rw [ht, hu]
  have items : Run.SameOutcome symbols
      (Dispatch.items (level.path.child key) (fun t => inner key t level) [t])
      (Dispatch.items (level.path.child key) (fun t => inner key t level) [u]) := by
    apply h.bind
    rintro found _ rfl
    cases found with
    | accept key value flattened unknown =>
      exact (Run.Agree.pure rfl).bind fun _ _ same => .pure (by rw [same])
    | drop => exact .pure rfl
    | replaceAll pairs => exact .throw trivial
  apply items.bind
  rintro found _ rfl
  exact .pure rfl

/-- A tag's rule does not tell two values apart that the tag does not tell apart. -/
theorem Dispatch.sameOutcome_type {symbols : SymbolTable} {tag : Tag} {key : Key} {t u : Term}
    {level : Level} (h : (tag.validate symbols t).toOption = (tag.validate symbols u).toOption) :
    Run.SameOutcome symbols (Dispatch.type tag key t level) (Dispatch.type tag key u level) where
  first j hj := by
    unfold Dispatch.type
    split <;> exact hj
  second j hj := by
    unfold Dispatch.type
    split <;> exact hj
  alike j j' hj hj' := by
    unfold Dispatch.type
    rw [hj, hj']
    cases ht : tag.validate symbols t <;> cases hu : tag.validate symbols u <;> rw [ht, hu] at h <;>
      cases h
    · exact .error trivial
    · exact .ok rfl

/-! ## The forms of a text -/

namespace Tag

open Term

variable {s : String} {tag : Tag} {t u : Term} {symbols : SymbolTable}

/-- **To a tag all forms of a text are one.** A text that is not empty and printable, and whose symbol
exists, may be given as a string, as its bytes, as its code points and, unless the tag reads a number, as
an atom: a tag other than the one for anything makes the same term of all of them, or refuses them all, and
so do a list of it and rules in which lists of it are nested. -/
theorem forms_of_text_are_one (h : Printable s) (interned : ⟨s⟩ ∈ symbols.symbols) (any : tag ≠ .any)
    (ht : FormOf s tag t) (hu : FormOf s tag u) :
    (tag.validate symbols t).toOption = (tag.validate symbols u).toOption ∧
      (∀ d, (ListRule.validate d (fun v => (tag.validate symbols v).map some) t).toOption =
        (ListRule.validate d (fun v => (tag.validate symbols v).map some) u).toOption) ∧
      ∀ (ds : List Discipline) key level, Run.SameOutcome symbols
        ((ds.foldr Rule.list (.type tag)).dispatch key t level)
        ((ds.foldr Rule.list (.type tag)).dispatch key u level) := by
  have one : (tag.validate symbols t).toOption = (tag.validate symbols u).toOption :=
    (toOption_validate h interned any ht).trans (toOption_validate h interned any hu).symm
  have single := (ht.readsAs h).single
  have single' := (hu.readsAs h).single
  refine ⟨one, fun d => ?_, fun ds key level => ?_⟩
  · rw [ListRule.validate_of_single single, ListRule.validate_of_single single']
    cases hr : tag.validate symbols t <;> cases hr' : tag.validate symbols u <;> rw [hr, hr'] at one <;>
      cases one <;> rfl
  · induction ds with
    | nil =>
      rw [List.foldr_nil, Rule.dispatch]
      exact Dispatch.sameOutcome_type one
    | cons d ds ih =>
      rw [List.foldr_cons, Rule.dispatch]
      exact Dispatch.sameOutcome_list single single' d ih

/-- A name with a letter outside ASCII, as an atom and as its code points. -/
theorem forms_of_text_are_one_zurich :
    let name : String := "Zürich"
    let symbols : SymbolTable := SymbolTable.empty.intern name
    Printable name ∧ ⟨name⟩ ∈ symbols.symbols ∧ ¬Tag.lowerBinary.Numeric ∧
      (Tag.lowerBinary.validate symbols (.atom ⟨name⟩)).toOption =
        (Tag.lowerBinary.validate symbols (.list (codes name))).toOption ∧
      ∀ key level, Run.SameOutcome symbols
        ((Rule.list .unique (.type .lowerBinary)).dispatch key (.atom ⟨name⟩) level)
        ((Rule.list .unique (.type .lowerBinary)).dispatch key (.list (codes name)) level) := by
  intro name symbols
  have printable : Printable name :=
    ⟨by decide, List.all_eq_true.1 (by decide +kernel)⟩
  have interned : ⟨name⟩ ∈ symbols.symbols := SymbolTable.mem_intern.2 (.inl rfl)
  have words : ¬Tag.lowerBinary.Numeric := id
  obtain ⟨validated, -, dispatched⟩ := forms_of_text_are_one printable interned
    (show Tag.lowerBinary ≠ .any by decide) (.atom words) .codes
  exact ⟨printable, interned, words, validated, dispatched [.unique]⟩

end Tag

end Conform
