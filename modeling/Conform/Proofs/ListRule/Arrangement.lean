import Conform.Proofs.ListRule
import Conform.Proofs.Run.Agree
import Conform.Proofs.Term.Identity
import Conform.Tag.Validation

/-!
# What arranging comes to

Sorting is stable: of items that compare as equal the order of the input is kept. Freeing from repetitions
keeps one item of each kind that compares as equal, the first of the input. Either way the result says how
many items of each kind there are and puts the kinds in order, so two inputs that are permutations of each
other are arranged to lists that are equal place by place, and without functions in them these are
identical. Nothing else of a list's order comes into its validation, for whether a list is one text does
not depend on the order of its codes either.
-/

namespace Conform.ListRule

open Term

variable {items others : List Term} {d : Discipline} {t u v : Term}

/-! ## Items that compare as equal -/

/-- Whether two terms compare as equal. -/
def ties (t u : Term) : Bool :=
  (order t u).isEq

theorem ties_iff : ties t u = true ↔ order t u = .eq :=
  Ordering.isEq_iff_eq_eq

theorem ties_self (t : Term) : ties t t = true :=
  ties_iff.2 Std.ReflCmp.compare_self

theorem ties_congr_right (h : order u v = .eq) : ties t u = ties t v := by
  rw [ties, ties, Std.TransCmp.congr_right h]

/-! ## Sorting -/

/-- What sorting makes of items: the same items, ascending, and those that compare as equal in the order
of the input. -/
structure Sorts (items result : List Term) : Prop where
  perm : result.Perm items
  ascends : result.Pairwise fun a b => le a b
  stable : ∀ t, result.filter (ties t) = items.filter (ties t)

/-- Items that compare as equal stay in their order. -/
theorem filter_mergeSort (items : List Term) (t : Term) :
    (items.mergeSort le).filter (ties t) = items.filter (ties t) := by
  have tied : (items.filter (ties t)).Pairwise fun a b => le a b := by
    refine List.pairwise_of_forall_mem_list fun a ha b hb => ?_
    have first := ties_iff.1 (List.mem_filter.1 ha).2
    have second := ties_iff.1 (List.mem_filter.1 hb).2
    rw [le, ← Std.TransCmp.congr_left first, second]
    rfl
  -- The tied items are sorted among themselves, so they are found in the result as they stand.
  have sublist := (List.sublist_mergeSort le_trans le_total tied List.filter_sublist).filter (ties t)
  rw [List.filter_filter] at sublist
  simp only [Bool.and_self] at sublist
  have length := ((List.mergeSort_perm items le).filter (ties t)).length_eq
  exact (sublist.eq_of_length length.symm).symm

/-- `sorted` is a stable sort by `order`. -/
theorem sorts_arrange (items : List Term) : Sorts items (arrange items .sorted) where
  perm := List.mergeSort_perm items le
  ascends := arranged_arrange items .sorted
  stable := filter_mergeSort items

/-! ## Freeing from repetitions -/

/-- What freeing from repetitions makes of items: it ascends strictly and adds nothing, and each item of the
input ties with one item of the result only, the first one of the input that it ties with. -/
structure Frees (items result : List Term) : Prop where
  ascends : result.Pairwise fun a b => order a b = .lt
  subset : ∀ u ∈ result, u ∈ items
  first : ∀ t ∈ items, ∃ u, items.find? (ties t) = some u ∧ result.filter (ties t) = [u]

/-- Of elements that tie the first is kept, since the repeats stand behind it. -/
theorem find?_dropRepeatsOf (before t : Term) (ts : List Term) :
    (before :: dropRepeatsOf before ts).find? (ties t) = (before :: ts).find? (ties t) := by
  induction ts generalizing before with
  | nil => rfl
  | cons u us ih =>
    rw [dropRepeatsOf]
    split
    · rename_i same
      rw [ih before, List.find?_cons, List.find?_cons, List.find?_cons, ties_congr_right same]
      cases ties t before <;> rfl
    · rw [List.find?_cons, ih u, ← List.find?_cons]

/-- What is dropped comes after an item that it ties with. -/
theorem find?_dropRepeats (t : Term) (ts : List Term) :
    (dropRepeats ts).find? (ties t) = ts.find? (ties t) := by
  cases ts with
  | nil => rfl
  | cons u us => exact find?_dropRepeatsOf u t us

/-- In a list that ascends strictly no two items tie with the same term. -/
theorem filter_of_ascending {ts : List Term} (h : ts.Pairwise fun a b => order a b = .lt) (t : Term) :
    ts.filter (ties t) = (ts.find? (ties t)).toList := by
  induction ts with
  | nil => rfl
  | cons u us ih =>
    obtain ⟨first, rest⟩ := List.pairwise_cons.1 h
    rw [List.filter_cons, List.find?_cons]
    cases tied : ties t u with
    | false => exact ih rest
    | true =>
      have none : us.filter (ties t) = [] := by
        refine List.filter_eq_nil_iff.2 fun v hv tied' => ?_
        have less : order t v = .lt := by
          rw [Std.TransCmp.congr_left (ties_iff.1 tied), first v hv]
        cases less.symm.trans (ties_iff.1 tied')
      rw [if_pos rfl, none]
      rfl

/-- Of the elements that tie with `t`, `unique` keeps one, and it is the first in the input. -/
theorem filter_arrange_unique (items : List Term) (t : Term) :
    (arrange items .unique).filter (ties t) = (items.find? (ties t)).toList := by
  rw [filter_of_ascending (arranged_arrange items .unique), arrange, find?_dropRepeats,
    ← List.head?_filter, filter_mergeSort, List.head?_filter]

/-- `unique` is a sort without repeats, with the first of each kept. -/
theorem frees_arrange (items : List Term) : Frees items (arrange items .unique) where
  ascends := arranged_arrange items .unique
  subset _ hu := mem_of_mem_arrange hu
  first t ht := by
    obtain ⟨u, found⟩ := Option.isSome_iff_exists.1 (List.find?_isSome.2 ⟨t, ht, ties_self t⟩)
    exact ⟨u, found, by rw [filter_arrange_unique, found]; rfl⟩

/-! ## Permutations -/

/-- Arranging tells how many items tie with a term, which does not depend on their order. -/
theorem countP_arrange_of_perm (h : items.Perm others) (d : Discipline) (t : Term) :
    (arrange items d).countP (ties t) = (arrange others d).countP (ties t) := by
  cases d with
  | ordered => exact h.countP_eq _
  | sorted =>
    rw [List.countP_eq_length_filter, List.countP_eq_length_filter, (sorts_arrange items).stable,
      (sorts_arrange others).stable]
    exact (h.filter _).length_eq
  | unique =>
    have found : (items.find? (ties t)).isSome = (others.find? (ties t)).isSome := by
      rw [Bool.eq_iff_iff, List.find?_isSome, List.find?_isSome]
      simp only [h.mem_iff]
    rw [List.countP_eq_length_filter, List.countP_eq_length_filter, filter_arrange_unique,
      filter_arrange_unique]
    cases hx : items.find? (ties t) <;> cases hy : others.find? (ties t) <;> rw [hx, hy] at found <;>
      first | rfl | cases found

/-- The first of a list in ascending order stands before every item that the list holds equals of. -/
theorem le_of_countP {a b : Term} {bs : List Term} (sorted : (b :: bs).Pairwise fun a b => le a b)
    (h : 0 < (b :: bs).countP (ties a)) : (order b a).isLE := by
  obtain ⟨v, hv, tied⟩ := List.countP_pos_iff.1 h
  have before : (order b v).isLE := by
    rcases List.mem_cons.1 hv with rfl | hv
    · exact Std.ReflCmp.isLE_rfl
    · exact (List.pairwise_cons.1 sorted).1 v hv
  rwa [Std.TransCmp.congr_right (ties_iff.1 tied)]

/-- Two lists in ascending order that hold equally many items of each kind are equal place by place. -/
theorem forall₂_of_countP {as bs : List Term} (ha : as.Pairwise fun a b => le a b)
    (hb : bs.Pairwise fun a b => le a b) (h : ∀ t, as.countP (ties t) = bs.countP (ties t)) :
    List.Forall₂ (fun a b => order a b = .eq) as bs := by
  have held (t : Term) (ts : List Term) : 0 < (t :: ts).countP (ties t) := by
    rw [List.countP_cons_of_pos (ties_self t)]
    exact Nat.succ_pos _
  induction as generalizing bs with
  | nil =>
    cases bs with
    | nil => exact .nil
    | cons b bs => exact absurd (h b) (Nat.ne_of_lt (held b bs))
  | cons a as ih =>
    cases bs with
    | nil => exact absurd (h a) (Nat.ne_of_gt (held a as))
    | cons b bs =>
      have same : order a b = .eq :=
        Std.OrientedCmp.isLE_antisymm (le_of_countP ha (h b ▸ held b bs))
          (le_of_countP hb (h a ▸ held a as))
      refine .cons same (ih (List.pairwise_cons.1 ha).2 (List.pairwise_cons.1 hb).2 fun t => ?_)
      have whole := h t
      rw [List.countP_cons, List.countP_cons, ties_congr_right same] at whole
      exact Nat.add_right_cancel whole

theorem ascends_arrange (items : List Term) (h : d ≠ .ordered) :
    (arrange items d).Pairwise fun a b => le a b := by
  cases d with
  | ordered => exact absurd rfl h
  | sorted => exact arranged_arrange items .sorted
  | unique =>
    have strict := arranged_arrange items .unique
    exact strict.imp fun less => by rw [le, less]; rfl

/-- Permutations are arranged to lists that are equal place by place. -/
theorem forall₂_arrange_of_perm (h : items.Perm others) (hd : d ≠ .ordered) :
    List.Forall₂ (fun a b => order a b = .eq) (arrange items d) (arrange others d) :=
  forall₂_of_countP (ascends_arrange items hd) (ascends_arrange others hd)
    (countP_arrange_of_perm h d)

/-- Permutations are arranged to the same list, if there is no function in the one that comes out. -/
theorem identical_arrange_of_perm (h : items.Perm others) (hd : d ≠ .ordered)
    (functionless : ∀ t ∈ arrange items d, t.Functionless) :
    Identical (.list (arrange items d)) (.list (arrange others d)) :=
  .list ((forall₂_congr_of_mem fun t ht _ =>
    order_eq_iff.trans (congruent_iff_of_functionless (functionless t ht))).1
      (forall₂_arrange_of_perm h hd))

/-! ## Validated lists -/

/-- Whether a list is a text is decided item by item. -/
theorem isCharList_of_perm (h : items.Perm others) : isCharList items = isCharList others := by
  rw [isCharList, isCharList, h.isEmpty_eq, h.all_eq]

section Collect

variable {ε : Type} {step : Term → Except ε (Option Term)} {ts : List Term}

/-- What a step that passes keeps of a term. -/
def kept (step : Term → Except ε (Option Term)) (t : Term) : Option Term :=
  (step t).toOption.bind id

/-- Where every element passes, `collect` keeps what they give. -/
theorem collect_of_forall (h : ∀ t ∈ ts, ∃ o, step t = .ok o) :
    collect step ts = .ok (ts.filterMap (kept step)) := by
  induction ts with
  | nil => rfl
  | cons t ts ih =>
    obtain ⟨⟨o, passes⟩, rest⟩ := List.forall_mem_cons.1 h
    rw [collect, passes, ih rest, List.filterMap_cons, kept, passes]
    cases o <;> rfl

theorem collect_of_error {e : ε} (ht : t ∈ ts) (fails : step t = .error e) :
    ∃ e', collect step ts = .error e' := by
  induction ts with
  | nil => cases ht
  | cons u us ih =>
    rw [collect]
    cases first : step u with
    | error e' => exact ⟨e', rfl⟩
    | ok o =>
      rcases List.mem_cons.1 ht with rfl | ht
      · cases first.symm.trans fails
      · obtain ⟨e', later⟩ := ih ht
        exact ⟨e', by rw [later]; rfl⟩

/-- The items of a permutation are taken to the same results in another order, or one of them fails. -/
theorem collect_of_perm (step : Term → Except ε (Option Term)) (h : items.Perm others) :
    Alike (fun _ _ => True) List.Perm (collect step items) (collect step others) := by
  by_cases pass : ∀ t ∈ items, ∃ o, step t = .ok o
  · rw [collect_of_forall pass, collect_of_forall fun t ht => pass t (h.mem_iff.2 ht)]
    exact .ok (h.filterMap _)
  · obtain ⟨t, ht, fails⟩ : ∃ t ∈ items, ∃ e, step t = .error e := by
      by_contra none
      refine pass fun t ht => ?_
      cases ended : step t with
      | ok o => exact ⟨o, rfl⟩
      | error e => exact absurd ⟨t, ht, e, ended⟩ none
    obtain ⟨e, fails⟩ := fails
    obtain ⟨e₁, first⟩ := collect_of_error ht fails
    obtain ⟨e₂, second⟩ := collect_of_error (h.mem_iff.1 ht) fails
    rw [first, second]
    exact .error trivial

/-- Two lists that are permutations of each other and no texts are validated to the same value, as far as
there is no function in it, or both fail. -/
theorem validate_of_perm (step : Term → Except ε (Option Term)) (h : items.Perm others)
    (hd : d ≠ .ordered) (sequence : isCharList items = false) :
    Alike (fun _ _ => True) (fun t u => t.Functionless → Identical t u)
      (validate d step (.list items)) (validate d step (.list others)) := by
  have collected := collect_of_perm step h
  rw [validate, validate, elements_of_not_charList sequence,
    elements_of_not_charList ((isCharList_of_perm h).symm.trans sequence)]
  refine collected.map (f := fun ts => Term.list (arrange ts d))
    (g := fun ts => Term.list (arrange ts d)) ?_
  intro as bs perm functionless
  exact identical_arrange_of_perm perm hd fun t ht => functionless.item ht

end Collect

/-- **The list disciplines.** Sorting gives a permutation of the items that ascends and keeps the order of
those that compare as equal; freeing from repetitions gives a list that ascends strictly and has of each
item the first one that it compares as equal to. Neither depends on the order of items without functions,
and so neither does what a list that is no text is validated to, whatever each of its items is. -/
theorem arrange_meets_disciplines (items : List Term) :
    Sorts items (arrange items .sorted) ∧ Frees items (arrange items .unique) ∧
      ∀ d, d ≠ .ordered → ∀ others, items.Perm others →
        ((∀ t ∈ items, t.Functionless) →
          Identical (.list (arrange items d)) (.list (arrange others d))) ∧
        (isCharList items = false → ∀ (ε : Type) (step : Term → Except ε (Option Term)),
          Alike (fun _ _ => True) (fun t u => t.Functionless → Identical t u)
            (validate d step (.list items)) (validate d step (.list others))) := by
  refine ⟨sorts_arrange items, frees_arrange items, fun d hd others perm => ⟨?_, ?_⟩⟩
  · intro functionless
    exact identical_arrange_of_perm perm hd fun t ht => functionless t (mem_of_mem_arrange ht)
  · intro sequence ε step
    exact validate_of_perm step perm hd sequence

/-- Five values, two of which read the same as strings, in both directions. -/
theorem arrange_meets_disciplines_reversed :
    let given : List Term :=
      [.string "b", .integer 80, .atom ⟨"a"⟩, .integer 9007199254740993, .string "80"]
    let asText (t : Term) : Except Mismatch (Option Term) := (Tag.string.validate .empty t).map some
    given.Perm given.reverse ∧ (∀ t ∈ given, t.Functionless) ∧ isCharList given = false ∧
      Identical (.list (arrange given .sorted)) (.list (arrange given.reverse .sorted)) ∧
      Alike (fun _ _ => True) (fun t u => t.Functionless → Identical t u)
        (validate .unique asText (.list given)) (validate .unique asText (.list given.reverse)) := by
  intro given asText
  have perm : given.Perm given.reverse := (List.reverse_perm given).symm
  have functionless : ∀ t ∈ given, t.Functionless := by simp [given, Functionless]
  have sequence : isCharList given = false := by decide +kernel
  obtain ⟨-, -, permuted⟩ := arrange_meets_disciplines given
  exact ⟨perm, functionless, sequence, (permuted .sorted (by decide) _ perm).1 functionless,
    (permuted .unique (by decide) _ perm).2 sequence Mismatch asText⟩

end Conform.ListRule
