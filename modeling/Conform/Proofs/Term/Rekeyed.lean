import Conform.ListRule
import Conform.Proofs.Pointwise
import Conform.Proofs.Run.Agree
import Conform.Tag.Validation

/-!
# Terms with other kinds of keys

A key may be given as a symbol or as a text, so one and the same document comes in many forms.
`Term.Rekeyed R` relates two terms that differ in the keys of their maps only, at any depth, key for
key by `R`. Whatever looks at a term without looking at the keys of its maps sees no difference: its
kind, its text, its pairs up to their keys, its shape.
-/

namespace Conform

/-- A change of keys that cannot be noticed under these symbols: the name stays, and the kind may
change if the name is a symbol. -/
structure KeyChange (t : SymbolTable) (R : Key → Key → Prop) : Prop where
  refl : ∀ k, R k k
  name : ∀ k k', R k k' → k.name = k'.name
  symbol : ∀ k k', R k k' → k = k' ∨ ⟨k.name⟩ ∈ t.symbols

/-- Keys of one name, of any kind if the name is a symbol: every change that cannot be noticed is part
of this one. -/
def Key.SameName (t : SymbolTable) (k k' : Key) : Prop :=
  k.name = k'.name ∧ (k = k' ∨ ⟨k.name⟩ ∈ t.symbols)

/-- A text and an existing symbol of its name stand for each other: this is the change of keys the
equivalence is about. -/
theorem keyChange_sameName (t : SymbolTable) : KeyChange t (Key.SameName t) where
  refl _ := ⟨rfl, .inl rfl⟩
  name _ _ h := h.1
  symbol _ _ h := h.2

namespace Term

/-- The second term is the first one with other keys in its maps. -/
inductive Rekeyed (R : Key → Key → Prop) : Term → Term → Prop where
  | same (t : Term) : Rekeyed R t t
  | list {as bs : List Term} : List.Forall₂ (Rekeyed R) as bs → Rekeyed R (.list as) (.list bs)
  | tuple {as bs : List Term} : List.Forall₂ (Rekeyed R) as bs → Rekeyed R (.tuple as) (.tuple bs)
  | map {ps qs : Pairs} : List.Forall₂ (fun p q => R p.1 q.1) ps qs →
    List.Forall₂ (fun p q => Rekeyed R p.2 q.2) ps qs → Rekeyed R (.map ps) (.map qs)

/-- A pair and the same pair with another key, also within its value. -/
def PairRekeyed (R : Key → Key → Prop) (p q : Key × Term) : Prop :=
  R p.1 q.1 ∧ Rekeyed R p.2 q.2

variable {R : Key → Key → Prop} {a b : Term} {as bs : List Term} {ps qs : Pairs}

theorem forall_pairRekeyed_iff : List.Forall₂ (PairRekeyed R) ps qs ↔
    List.Forall₂ (fun p q => R p.1 q.1) ps qs ∧ List.Forall₂ (fun p q => Rekeyed R p.2 q.2) ps qs :=
  forall₂_and

/-- Related maps are equal or related pair by pair, their keys included. -/
theorem rekeyed_map_iff :
    Rekeyed R (.map ps) (.map qs) ↔ ps = qs ∨ List.Forall₂ (PairRekeyed R) ps qs := by
  constructor
  · intro h
    cases h with
    | same => exact .inl rfl
    | map keys values => exact .inr (forall_pairRekeyed_iff.2 ⟨keys, values⟩)
  · rintro (rfl | h)
    · exact .same _
    · exact .map (forall_pairRekeyed_iff.1 h).1 (forall_pairRekeyed_iff.1 h).2

theorem forall_rekeyed_refl (items : List Term) : List.Forall₂ (Rekeyed R) items items :=
  List.forall₂_same.2 fun t _ => .same t

theorem forall_pairRekeyed_refl (refl : ∀ k, R k k) (pairs : Pairs) :
    List.Forall₂ (PairRekeyed R) pairs pairs :=
  List.forall₂_same.2 fun p _ => ⟨refl p.1, .same p.2⟩

/-- Induction over terms with other keys, with one case for each kind that has parts. -/
theorem Rekeyed.induct {P : Term → Term → Prop} (same : ∀ t, P t t)
    (list : ∀ as bs, List.Forall₂ (Rekeyed R) as bs → List.Forall₂ P as bs → P (.list as) (.list bs))
    (tuple : ∀ as bs, List.Forall₂ (Rekeyed R) as bs → List.Forall₂ P as bs →
      P (.tuple as) (.tuple bs))
    (map : ∀ ps qs : Pairs, List.Forall₂ (fun p q => P p.2 q.2) ps qs → P (.map ps) (.map qs))
    (h : Rekeyed R a b) : P a b :=
  Rekeyed.rec (motive_1 := fun a b _ => P a b) (motive_2 := fun as bs _ => List.Forall₂ P as bs)
    (motive_3 := fun ps qs _ => List.Forall₂ (fun p q => P p.2 q.2) ps qs)
    same (fun items ih => list _ _ items ih) (fun items ih => tuple _ _ items ih)
    (fun _ _ ih => map _ _ ih) .nil (fun _ _ ih ih' => .cons ih ih') .nil
    (fun _ _ ih ih' => List.Forall₂.cons (R := fun p q : Key × Term => P p.2 q.2) ih ih') h

/-! ## Views -/

/-- A term is read as the same key however the keys inside it are kept. -/
theorem key?_of_rekeyed (h : Rekeyed R a b) : key? a = key? b := by
  cases h <;> rfl

theorem charOf?_of_rekeyed (h : Rekeyed R a b) : charOf? a = charOf? b := by
  cases h <;> rfl

theorem isCharList_of_rekeyed (h : List.Forall₂ (Rekeyed R) as bs) :
    isCharList as = isCharList bs := by
  have all : (as.all fun t => (charOf? t).any isTextChar)
      = bs.all fun t => (charOf? t).any isTextChar := by
    induction h with
    | nil => rfl
    | cons first _ ih => rw [List.all_cons, List.all_cons, charOf?_of_rekeyed first, ih]
  rw [isCharList, isCharList, all]
  cases h <;> rfl

theorem text?_list_of_rekeyed (h : List.Forall₂ (Rekeyed R) as bs) :
    text? (.list as) = text? (.list bs) := by
  have chars : as.filterMap charOf? = bs.filterMap charOf? := by
    induction h with
    | nil => rfl
    | cons first _ ih => rw [List.filterMap_cons, List.filterMap_cons, charOf?_of_rekeyed first, ih]
  simp only [text?, isCharList_of_rekeyed h, chars]

theorem string?_list_of_rekeyed (h : List.Forall₂ (Rekeyed R) as bs) :
    string? (.list as) = string? (.list bs) := by
  cases h with
  | nil => rfl
  | cons first rest => exact text?_list_of_rekeyed (.cons first rest)

/-- The elements of a list stay what they are up to their keys: one text, or many values. -/
theorem elements_of_rekeyed (h : Rekeyed R a b) :
    List.Forall₂ (Rekeyed R) (ListRule.elements a) (ListRule.elements b) := by
  cases h with
  | same => exact forall_rekeyed_refl _
  | @list as bs items =>
    have empty : as.isEmpty = bs.isEmpty := by cases items <;> rfl
    simp only [ListRule.elements, empty, isCharList_of_rekeyed items]
    split
    · exact .cons (.list items) .nil
    · exact items
  | tuple items => exact .cons (.tuple items) .nil
  | map keys values => exact .cons (.map keys values) .nil

/-- Terms are read as pairs alike. A key that is read from an element is the same on both sides,
hence `refl`. -/
theorem pairOf?_of_rekeyed (refl : ∀ k, R k k) (h : Rekeyed R a b) :
    Option.Rel (PairRekeyed R) (pairOf? a) (pairOf? b) := by
  cases h with
  | same =>
    cases pairOf? a with
    | none => exact .none
    | some p => exact .some ⟨refl p.1, .same p.2⟩
  | tuple items =>
    -- Only tuples of two stand for pairs.
    rcases items with _ | ⟨first, _ | ⟨second, _ | _⟩⟩
    case cons.cons.nil k k' v v' =>
      simp only [pairOf?, key?_of_rekeyed first]
      cases key? k' with
      | none => exact .none
      | some key => exact .some ⟨refl key, second⟩
    all_goals exact .none
  | list | map => exact .none

theorem mapM_pairOf?_of_rekeyed (refl : ∀ k, R k k) (h : List.Forall₂ (Rekeyed R) as bs) :
    Option.Rel (List.Forall₂ (PairRekeyed R)) (as.mapM pairOf?) (bs.mapM pairOf?) := by
  induction h with
  | nil => exact .some .nil
  | @cons a b as bs first _ ih =>
    have here := pairOf?_of_rekeyed refl first
    rw [List.mapM_cons, List.mapM_cons]
    generalize pairOf? a = p at here ⊢
    generalize pairOf? b = q at here ⊢
    generalize as.mapM pairOf? = ps at ih ⊢
    generalize bs.mapM pairOf? = qs at ih ⊢
    cases here with
    | none => exact .none
    | some key =>
      cases ih with
      | none => exact .none
      | some rest => exact .some (.cons key rest)

/-- What stands for pairs stands for the same pairs with other keys. -/
theorem pairs?_of_rekeyed (refl : ∀ k, R k k) (h : Rekeyed R a b) :
    Option.Rel (List.Forall₂ (PairRekeyed R)) (pairs? a) (pairs? b) := by
  cases h with
  | same =>
    cases pairs? a with
    | none => exact .none
    | some pairs => exact .some (forall_pairRekeyed_refl refl pairs)
  | list items => exact mapM_pairOf?_of_rekeyed refl items
  | tuple => exact .none
  | map keys values => exact .some (forall_pairRekeyed_iff.2 ⟨keys, values⟩)

/-! ## Shapes of maps -/

/-- Two terms of the same shape: as a map, as a value within one, as a pair. -/
structure SameShape (a b : Term) : Prop where
  map : isMapShaped a = isMapShaped b
  value : nests a = nests b
  pair : isPair a = isPair b
  item : itemsNest [a] = itemsNest [b]

theorem itemsNest_cons (t : Term) (ts : List Term) :
    itemsNest (t :: ts) = (itemsNest [t] && itemsNest ts) := by
  rcases t with _ | _ | _ | _ | _ | _ | _ | items | _ | _ | _ | _ | _ | _
  case tuple => rcases items with _ | ⟨k, _ | ⟨v, _ | _⟩⟩ <;> simp [itemsNest]
  all_goals rfl

theorem itemsNest_of_sameShape (h : List.Forall₂ SameShape as bs) : itemsNest as = itemsNest bs := by
  induction h with
  | nil => rfl
  | @cons a b as bs first _ ih => rw [itemsNest_cons a as, itemsNest_cons b bs, first.item, ih]

theorem valuesNest_of_sameShape (h : List.Forall₂ (fun p q : Key × Term => SameShape p.2 q.2) ps qs) :
    valuesNest ps = valuesNest qs := by
  induction h with
  | nil => rfl
  | cons first _ ih => simp only [valuesNest, first.value, ih]

theorem allPairs_of_sameShape (h : List.Forall₂ SameShape as bs) :
    (!as.isEmpty && as.all isPair) = (!bs.isEmpty && bs.all isPair) := by
  have all : as.all isPair = bs.all isPair := by
    induction h with
    | nil => rfl
    | cons first _ ih => rw [List.all_cons, List.all_cons, first.pair, ih]
  rw [all]
  cases h <;> rfl

/-- Related terms have one shape, so the engine takes both for a nested level or neither. -/
theorem sameShape_of_rekeyed (h : Rekeyed R a b) : SameShape a b := by
  refine Rekeyed.induct (P := SameShape) ?same ?list ?tuple ?map h
  case same =>
    intro t
    exact ⟨rfl, rfl, rfl, rfl⟩
  case list =>
    intro as bs _ ih
    have items := itemsNest_of_sameShape ih
    refine ⟨items, ?_, rfl, rfl⟩
    simp only [nests, allPairs_of_sameShape ih, items]
  case tuple =>
    intro as bs items ih
    refine ⟨rfl, rfl, ?_, ?_⟩
    · rcases ih with _ | ⟨_, _ | ⟨_, _ | _⟩⟩ <;> rfl
    · rcases items with _ | ⟨key, _ | ⟨_, _ | _⟩⟩
      case cons.cons.nil =>
        have value := (List.forall₂_cons.1 (List.forall₂_cons.1 ih).2).1
        simp only [itemsNest, key?_of_rekeyed key, value.value]
      all_goals rfl
  case map =>
    intro ps qs ih
    have values := valuesNest_of_sameShape ih
    exact ⟨values, values, rfl, rfl⟩

end Term

/-! ## Validation -/

namespace Tag

open Term

variable {R : Key → Key → Prop} {a b : Term} {as bs : List Term}

/-- A list is validated as a text, unless it is copied or has to look like a map. -/
theorem validate_list_of_rekeyed (h : List.Forall₂ (Rekeyed R) as bs) (symbols : SymbolTable)
    (tag : Tag) : Alike (fun _ _ => True) (Rekeyed R) (tag.validate symbols (.list as))
      (tag.validate symbols (.list bs)) := by
  have text := text?_list_of_rekeyed h
  have string := string?_list_of_rekeyed h
  have same : ∀ r : Except Mismatch Term, Alike (fun _ _ => True) (Rekeyed R) r r :=
    Alike.refl (fun _ => trivial) .same
  cases tag with
  | any => exact .ok (.list h)
  | map =>
    simp only [validate, (sameShape_of_rekeyed (.list h)).map]
    split
    · exact .ok (.list h)
    · exact .error trivial
  | enumeration | uri | tokens | base64 | base64Url | timestamp =>
    simp only [validate, text]
    cases (Term.list bs).text? with
    | none => exact .error trivial
    | some s => exact same _
  | host6 =>
    simp only [validate, host?, string]
    split
    · exact .ok (.same _)
    · split
      · exact .ok (.same _)
      · exact .error trivial
  | function => exact .error trivial
  | _ =>
    simp only [validate, boolean?, integerWhere?, integer?, float?, bytes?, host?, text, string]
    split
    · exact .ok (.same _)
    · exact .error trivial

/-- A tag takes a term with other keys as well, and makes the same of it up to these keys. -/
theorem validate_of_rekeyed (h : Rekeyed R a b) (symbols : SymbolTable) (tag : Tag) :
    Alike (fun _ _ => True) (Rekeyed R) (tag.validate symbols a) (tag.validate symbols b) := by
  cases h with
  | same => exact .refl (fun _ => trivial) .same _
  | list items => exact validate_list_of_rekeyed items symbols tag
  | tuple items =>
    cases tag with
    | any => exact .ok (.tuple items)
    | _ => exact .error trivial
  | map keys values =>
    have whole := Rekeyed.map keys values
    cases tag with
    | any => exact .ok whole
    | map =>
      simp only [validate, (sameShape_of_rekeyed whole).map]
      split
      · exact .ok whole
      · exact .error trivial
    | _ => exact .error trivial

end Tag

end Conform
