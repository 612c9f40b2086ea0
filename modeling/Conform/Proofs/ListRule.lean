import Conform.ListRule
import Conform.Proofs.Term.Order

/-!
# Arranged lists

A list that is a text is one value, and any other list is its items. Arranging keeps every item or leaves
it out, and what it leaves out is equal to an item that it keeps. Each discipline promises an order of what
is kept, and arranging keeps the promise: sorting because the order of terms is a total preorder, dropping
repetitions because in a sorted list equal items stand side by side. A list that keeps the promise already
is left as it is.
-/

namespace Conform.ListRule

open Term

/-! ## One text, or many values -/

section Elements

variable {items : List Term}

/-- A text is one element. -/
theorem elements_of_charList (h : isCharList items = true) : elements (.list items) = [.list items] := by
  have nonempty : (!items.isEmpty) = true := ((Bool.and_eq_true _ _).mp h).1
  rw [elements, nonempty, h, Bool.and_true, if_pos rfl]

theorem elements_of_not_charList (h : isCharList items = false) : elements (.list items) = items := by
  rw [elements, h, Bool.and_false, if_neg Bool.false_ne_true]

end Elements

/-! ## What is left out -/

/-- The items that are left out after one that is kept. -/
def repeatsOf (before : Term) : List Term → List Term
  | [] => []
  | t :: ts => if order t before = .eq then t :: repeatsOf before ts else repeatsOf t ts

/-- The items equal to the one that is kept before them. -/
def repeats : List Term → List Term
  | [] => []
  | t :: ts => repeatsOf t ts

/-- The items that a discipline leaves out. -/
def dropped (items : List Term) : Discipline → List Term
  | .ordered | .sorted => []
  | .unique => repeats (items.mergeSort le)

/-- What `dropRepeatsOf` keeps and what it drops are the list together. -/
theorem perm_repeatsOf (before : Term) (ts : List Term) :
    ts.Perm (dropRepeatsOf before ts ++ repeatsOf before ts) := by
  induction ts generalizing before with
  | nil => exact .nil
  | cons t ts ih =>
    rw [dropRepeatsOf, repeatsOf]
    split
    · exact ((ih before).cons t).trans List.perm_middle.symm
    · exact (ih t).cons t

/-- Items are kept or left out, each of them once. -/
theorem perm_arrange (items : List Term) (d : Discipline) :
    items.Perm (arrange items d ++ dropped items d) := by
  have sorted : items.Perm (items.mergeSort le) := (List.mergeSort_perm items le).symm
  cases d with
  | ordered => rw [dropped, List.append_nil, arrange]
  | sorted => rw [dropped, List.append_nil]; exact sorted
  | unique =>
    apply sorted.trans
    rw [arrange, dropped]
    cases items.mergeSort le with
    | nil => exact .nil
    | cons t ts => exact (perm_repeatsOf t ts).cons t

theorem mem_of_mem_dropRepeatsOf {before t : Term} {ts : List Term}
    (h : t ∈ dropRepeatsOf before ts) : t ∈ ts :=
  (perm_repeatsOf before ts).mem_iff.2 (List.mem_append_left _ h)

theorem mem_of_mem_arrange {t : Term} {items : List Term} {d : Discipline}
    (h : t ∈ arrange items d) : t ∈ items :=
  (perm_arrange items d).mem_iff.2 (List.mem_append_left _ h)

/-- An element that is dropped stands beside one that is kept and that `order` does not tell from
it. -/
theorem exists_of_mem_repeatsOf {before t : Term} {ts : List Term} (h : t ∈ repeatsOf before ts) :
    ∃ u ∈ before :: dropRepeatsOf before ts, order t u = .eq := by
  induction ts generalizing before with
  | nil => cases h
  | cons u us ih =>
    rw [repeatsOf] at h
    rw [dropRepeatsOf]
    split at h
    · rename_i same
      rw [if_pos same]
      rcases List.mem_cons.1 h with rfl | h
      · exact ⟨before, List.mem_cons_self, same⟩
      · exact ih h
    · rename_i differ
      rw [if_neg differ]
      obtain ⟨v, hv, same⟩ := ih h
      exact ⟨v, List.mem_cons_of_mem _ hv, same⟩

/-- For every item, kept or left out, an equal one is kept. -/
theorem exists_kept {items : List Term} {d : Discipline} {t : Term} (h : t ∈ items) :
    ∃ u ∈ arrange items d, order t u = .eq := by
  have mem := (perm_arrange items d).mem_iff.1 h
  rcases List.mem_append.1 mem with kept | out
  · exact ⟨t, kept, Std.ReflCmp.compare_self⟩
  · cases d with
    | ordered | sorted => cases out
    | unique =>
      rw [arrange]
      rw [dropped] at out
      cases hs : items.mergeSort le with
      | nil => rw [hs] at out; cases out
      | cons u us =>
        rw [hs] at out
        exact exists_of_mem_repeatsOf out

/-! ## What is promised -/

/-- The promise of a discipline. -/
def Arranged (items : List Term) : Discipline → Prop
  | .ordered => True
  | .sorted => items.Pairwise fun a b => le a b
  | .unique => items.Pairwise fun a b => order a b = .lt

/-- In a sorted list the items that are kept ascend strictly. -/
theorem pairwise_dropRepeatsOf {before : Term} {ts : List Term}
    (h : (before :: ts).Pairwise fun a b => le a b) :
    (before :: dropRepeatsOf before ts).Pairwise fun a b => order a b = .lt := by
  induction ts generalizing before with
  | nil => exact List.pairwise_singleton _ _
  | cons t ts ih =>
    obtain ⟨first, rest⟩ := List.pairwise_cons.1 h
    obtain ⟨next, tail⟩ := List.pairwise_cons.1 rest
    rw [dropRepeatsOf]
    split
    · exact ih (List.pairwise_cons.2 ⟨fun u hu => first u (List.mem_cons_of_mem _ hu), tail⟩)
    · rename_i differ
      have ascends : order before t = .lt := by
        have le := first t List.mem_cons_self
        rw [Term.le] at le
        rw [order_swap before t] at differ
        cases hb : order before t with
        | lt => rfl
        | eq => exact absurd (by rw [hb]; rfl) differ
        | gt => rw [hb] at le; cases le
      refine List.pairwise_cons.2 ⟨fun u hu => ?_, ih rest⟩
      rcases List.mem_cons.1 hu with rfl | hu
      · exact ascends
      · exact Std.TransCmp.lt_of_lt_of_isLE ascends (next u (mem_of_mem_dropRepeatsOf hu))

theorem dropRepeatsOf_of_pairwise {before : Term} {ts : List Term}
    (h : (before :: ts).Pairwise fun a b => order a b = .lt) : dropRepeatsOf before ts = ts := by
  induction ts generalizing before with
  | nil => rfl
  | cons t ts ih =>
    obtain ⟨first, rest⟩ := List.pairwise_cons.1 h
    have differ : order t before ≠ .eq := by
      rw [order_swap before t, first t List.mem_cons_self]
      exact nofun
    rw [dropRepeatsOf, if_neg differ, ih rest]

/-- Arranging keeps the promise. -/
theorem arranged_arrange (items : List Term) (d : Discipline) : Arranged (arrange items d) d := by
  have sorted := List.pairwise_mergeSort le_trans le_total items
  cases d with
  | ordered => trivial
  | sorted => exact sorted
  | unique =>
    change (dropRepeats (items.mergeSort le)).Pairwise _
    cases hs : items.mergeSort le with
    | nil => exact List.Pairwise.nil
    | cons t ts => exact pairwise_dropRepeatsOf (hs ▸ sorted)

/-- A list that keeps the promise is left as it is. -/
theorem arrange_of_arranged {items : List Term} {d : Discipline} (h : Arranged items d) :
    arrange items d = items := by
  cases d with
  | ordered => rfl
  | sorted => exact List.mergeSort_of_pairwise h
  | unique =>
    have sorted : items.Pairwise fun a b => le a b :=
      List.Pairwise.imp (fun hab => by rw [le, hab]; rfl) h
    rw [arrange, List.mergeSort_of_pairwise sorted]
    cases items with
    | nil => rfl
    | cons t ts => rw [dropRepeats, dropRepeatsOf_of_pairwise h]

end Conform.ListRule
