import Conform.Proofs.Binary64.Rounding
import Conform.Term.Order
import Mathlib.Data.List.Forall2

/-!
# The order of terms is a total preorder

`Term.order` compares by kinds and, within a kind, by parts, one after another. That two comparisons
chain is kept by such a succession: if `a` is not after `b` and `b` not after `c`, then `a` and `c`
compare as the first of the two comparisons that is decided. An induction over the first term carries
this through lists, tuples and maps. Numbers are the one kind whose comparison is no succession of
parts: an integer is placed by its rounding, which keeps the order of the integers.

`order_swap` and `order_chain` are the two inductions.
-/

namespace Conform

/-! ## The parts -/

instance : Std.TransOrd Symbol :=
  inferInstanceAs (Std.TransCmp (compareOn Symbol.name))

instance : Std.TransOrd Binary64 :=
  inferInstanceAs (Std.TransCmp (compareOn Binary64.rank))

instance : Std.TransOrd Uri :=
  inferInstanceAs (Std.TransCmp (compareOn Uri.text))

instance : Std.TransOrd Time.Instant :=
  inferInstanceAs (Std.TransCmp (compareLex (compareOn Time.Instant.seconds)
    (compareOn Time.Instant.nanos)))

instance : Std.TransOrd Time.Precision :=
  inferInstanceAs (Std.TransCmp (compareOn Time.Precision.digits))

instance : Std.TransOrd Time.Timestamp :=
  inferInstanceAs (Std.TransCmp (compareLex (compareOn Time.Timestamp.instant)
    (compareOn Time.Timestamp.precision)))

instance : Std.TransOrd Net.Address where
  eq_swap {a b} := by
    cases a <;> cases b
    case v4.v4 a b => exact Std.OrientedOrd.eq_swap (a := a.toList)
    case v6.v6 a b => exact Std.OrientedOrd.eq_swap (a := a.toList)
    all_goals rfl
  isLE_trans {a b c} hab hbc := by
    cases a <;> cases b <;> cases c
    case v4.v4.v4 a b c => exact Std.TransOrd.isLE_trans (a := a.toList) (b := b.toList) hab hbc
    case v6.v6.v6 a b c => exact Std.TransOrd.isLE_trans (a := a.toList) (b := b.toList) hab hbc
    all_goals first | rfl | cases show false = true from hab | cases show false = true from hbc

instance : Std.TransOrd Net.Network :=
  inferInstanceAs (Std.TransCmp (compareLex (compareOn Net.Network.address)
    (compareOn Net.Network.length)))

instance : Std.TransOrd Key where
  eq_swap {a b} := by
    cases a <;> cases b
    case symbol.symbol a b => exact Std.OrientedOrd.eq_swap (a := a)
    case text.text a b => exact Std.OrientedOrd.eq_swap (a := a)
    all_goals rfl
  isLE_trans {a b c} hab hbc := by
    cases a <;> cases b <;> cases c
    case symbol.symbol.symbol a b c => exact Std.TransOrd.isLE_trans (a := a) (b := b) hab hbc
    case text.text.text a b c => exact Std.TransOrd.isLE_trans (a := a) (b := b) hab hbc
    all_goals first | rfl | cases show false = true from hab | cases show false = true from hbc

instance : Std.LawfulEqOrd Key where
  eq_of_compare {a b} h := by
    cases a <;> cases b
    case symbol.symbol a b => exact congrArg Key.symbol (congrArg Symbol.mk
      (Std.LawfulEqOrd.eq_of_compare (show compare a.name b.name = .eq from h)))
    case text.text a b => exact congrArg Key.text (Std.LawfulEqOrd.eq_of_compare (a := a) h)
    case symbol.text => cases show Ordering.lt = .eq from h
    case text.symbol => cases show Ordering.gt = .eq from h

/-! ## Chains -/

/-- Two comparisons, `x` of a first with a second and `y` of the second with a third, chain to the
comparison `z` of the first with the third. -/
def Chain (x y z : Ordering) : Prop :=
  x.isLE → y.isLE → z = x.then y

/-- Comparing by one thing and then by another chains if both do. -/
theorem Chain.then {x y z x' y' z' : Ordering} (h : Chain x y z) (h' : Chain x' y' z') :
    Chain (x.then x') (y.then y') (z.then z') := by
  unfold Chain at *
  cases x <;> cases y <;> cases x' <;> simp_all

theorem Chain.of_trans {α : Type} {cmp : α → α → Ordering} [Std.TransCmp cmp] (a b c : α) :
    Chain (cmp a b) (cmp b c) (cmp a c) := by
  intro hab hbc
  cases h : cmp a b with
  | lt => exact Std.TransCmp.lt_of_lt_of_isLE h hbc
  | eq => exact Std.TransCmp.congr_left h
  | gt => rw [h] at hab; cases hab

namespace Term

/-! ## Kinds -/

/-- Induction over terms, with one case for those without parts. -/
theorem induct {P : Term → Prop} (plain : ∀ t, t.rank ≠ 8 → t.rank ≠ 9 → t.rank ≠ 10 → P t)
    (tuple : ∀ items, (∀ t ∈ items, P t) → P (.tuple items))
    (map : ∀ pairs : Pairs, (∀ p ∈ pairs, P p.2) → P (.map pairs))
    (list : ∀ items, (∀ t ∈ items, P t) → P (.list items)) (t : Term) : P t := by
  refine Term.rec (motive_1 := P) (motive_2 := fun items => ∀ t ∈ items, P t)
    (motive_3 := fun pairs => ∀ p ∈ pairs, P p.2) (motive_4 := fun p => P p.2)
    ?_ ?_ ?_ ?_ ?_ ?_ list tuple map ?_ ?_ ?_ ?_ ?_ (List.forall_mem_nil _)
    (fun _ _ h h' => List.forall_mem_cons.2 ⟨h, h'⟩) (List.forall_mem_nil _)
    (fun _ _ h h' => List.forall_mem_cons.2 ⟨h, h'⟩) (fun _ _ h => h) t
  all_goals exact fun _ => plain _ nofun nofun nofun

/-- Terms of different kinds compare by their kinds. -/
theorem order_of_rank_ne {a b : Term} (h : a.rank ≠ b.rank) : order a b = compare a.rank b.rank := by
  cases a <;> cases b <;> first | rfl | exact absurd rfl h

/-! ## Numbers -/

/-- The place of a number among the floats. -/
def rounded : Term → Int
  | .integer i => (Binary64.ofInt i.toInt).rank
  | .float x => x.rank
  | _ => 0

/-- The number itself, if it is an integer. -/
def whole : Term → Option Int64
  | .integer i => some i
  | _ => none

def broken : Term → Bool
  | .integer _ => false
  | _ => true

/-- By the place among the floats, integers first, then by the integer. -/
def orderNumbers : Term → Term → Ordering :=
  compareLex (compareOn rounded) (compareLex (compareOn broken) (compareOn whole))

instance : Std.TransCmp orderNumbers :=
  inferInstanceAs (Std.TransCmp
    (compareLex (compareOn rounded) (compareLex (compareOn broken) (compareOn whole))))

/-- Integers compare as their nearest doubles do, and by themselves where these tie: rounding is
monotone. So one key serves all numbers. -/
theorem order_integers (i j : Int64) :
    compare i j = (compare (Binary64.ofInt i.toInt).rank (Binary64.ofInt j.toInt).rank).then
      (compare i j) := by
  have rounds {i j : Int64} (h : (compare i j).isLE) :
      (compare (Binary64.ofInt i.toInt).rank (Binary64.ofInt j.toInt).rank).isLE := by
    rw [Std.isLE_compare] at h ⊢
    exact Binary64.rank_ofInt_mono (Int64.le_iff_toInt_le.1 h)
  cases h : compare i j with
  | eq =>
    obtain rfl : i = j := Std.LawfulEqOrd.eq_of_compare h
    rw [Std.ReflOrd.compare_self]
    rfl
  | lt =>
    have := rounds (i := i) (j := j) (by rw [h]; rfl)
    cases hr : compare (Binary64.ofInt i.toInt).rank (Binary64.ofInt j.toInt).rank with
    | lt | eq => rfl
    | gt => rw [hr] at this; cases this
  | gt =>
    have := rounds (i := j) (j := i) (by rw [Std.OrientedOrd.eq_swap, h]; rfl)
    rw [Std.OrientedOrd.eq_swap] at this
    cases hr : compare (Binary64.ofInt i.toInt).rank (Binary64.ofInt j.toInt).rank with
    | gt | eq => rfl
    | lt => rw [hr] at this; cases this

/-- Numbers compare by that key. -/
theorem order_numbers {a b : Term} (ha : a.rank = 0) (hb : b.rank = 0) :
    order a b = orderNumbers a b := by
  cases a <;> cases ha <;> cases b <;> cases hb
  · exact order_integers _ _
  · rfl
  · rfl
  · exact Ordering.then_eq.symm

/-! ## Kinds without parts -/

/-- The comparison within the kind of the given rank, by what its terms hold. -/
def orderWithin : Nat → Term → Term → Ordering
  | 0 => orderNumbers
  | 1 => compareOn fun | .atom s => some s | _ => none
  | 2 => compareOn fun | .boolean b => some b | _ => none
  | 3 => compareLex (compareOn fun | .function f => some f.arity | _ => none)
      (compareOn fun | .function f => some f.name | _ => none)
  | 4 => compareOn fun | .address a => some a | _ => none
  | 5 => compareOn fun | .network n => some n | _ => none
  | 6 => compareOn fun | .timestamp t => some t | _ => none
  | 7 => compareOn fun | .uri u => some u | _ => none
  | 11 => compareOn fun | .string s => some s | _ => none
  | 12 => compareOn fun | .binary bytes => some bytes | _ => none
  | _ => compareOn rank

instance (kind : Nat) : Std.TransCmp (orderWithin kind) := by
  unfold orderWithin
  split <;> infer_instance

/-- Terms of one kind without parts compare by what they hold. -/
theorem order_of_rank_eq {a b : Term} (h : b.rank = a.rank) (tuple : a.rank ≠ 8) (map : a.rank ≠ 9)
    (list : a.rank ≠ 10) : order a b = orderWithin a.rank a b := by
  cases a
  case integer | float => exact order_numbers rfl h
  case tuple | map | list => contradiction
  -- The other term is of the kind at hand too, so both hold something.
  all_goals
    cases b <;> cases h
    rfl

/-! ## Orientation -/

theorem orderItems_swap {as : List Term} (h : ∀ a ∈ as, ∀ b, order b a = (order a b).swap)
    (bs : List Term) : orderItems bs as = (orderItems as bs).swap := by
  induction as generalizing bs with
  | nil => cases bs <;> rfl
  | cons a as ih =>
    cases bs with
    | nil => rfl
    | cons b bs =>
      obtain ⟨here, rest⟩ := List.forall_mem_cons.1 h
      rw [orderItems, orderItems, here b, ih rest bs, Ordering.swap_then]

theorem orderPairs_swap {as : Pairs} (h : ∀ p ∈ as, ∀ b, order b p.2 = (order p.2 b).swap)
    (bs : Pairs) : orderPairs bs as = (orderPairs as bs).swap := by
  induction as generalizing bs with
  | nil => cases bs <;> rfl
  | cons p as ih =>
    cases bs with
    | nil => rfl
    | cons q bs =>
      obtain ⟨here, rest⟩ := List.forall_mem_cons.1 h
      rw [orderPairs, orderPairs, here q.2, ih rest bs, Ordering.swap_then, Ordering.swap_then,
        Std.OrientedOrd.eq_swap (a := q.1)]

/-- Comparing the other way round swaps the outcome, by induction on the first term. -/
theorem order_swap (a b : Term) : order b a = (order a b).swap := by
  induction a using induct generalizing b with
  | tuple as ih =>
    cases b with
    | tuple bs =>
      change (compare bs.length as.length).then (orderItems bs as)
        = ((compare as.length bs.length).then (orderItems as bs)).swap
      rw [orderItems_swap ih bs, Ordering.swap_then, Std.OrientedOrd.eq_swap (a := bs.length)]
    | _ => rfl
  | map as ih =>
    cases b with
    | map bs =>
      change (compare bs.length as.length).then (orderPairs bs as)
        = ((compare as.length bs.length).then (orderPairs as bs)).swap
      rw [orderPairs_swap ih bs, Ordering.swap_then, Std.OrientedOrd.eq_swap (a := bs.length)]
    | _ => rfl
  | list as ih =>
    cases b with
    | list bs => exact orderItems_swap ih bs
    | _ => rfl
  | plain a tuple map list =>
    by_cases kind : b.rank = a.rank
    · rw [order_of_rank_eq kind tuple map list, order_of_rank_eq kind.symm (kind ▸ tuple)
        (kind ▸ map) (kind ▸ list), kind]
      exact Std.OrientedCmp.eq_swap
    · rw [order_of_rank_ne kind, order_of_rank_ne (Ne.symm kind)]
      exact Std.OrientedOrd.eq_swap

/-! ## Transitivity -/

/-- A term that comes first is of a kind that comes no later. -/
theorem rank_le_of_isLE {a b : Term} (h : (order a b).isLE) : a.rank ≤ b.rank := by
  by_cases kind : a.rank = b.rank
  · exact Nat.le_of_eq kind
  · rw [order_of_rank_ne kind, Std.isLE_compare] at h
    exact h

/-- Comparisons chain if they do so within a kind. -/
theorem chain_of_kind {a b c : Term} (h : b.rank = a.rank → c.rank = a.rank →
    Chain (order a b) (order b c) (order a c)) : Chain (order a b) (order b c) (order a c) := by
  intro hab hbc
  have first := rank_le_of_isLE hab
  have second := rank_le_of_isLE hbc
  by_cases kinds : b.rank = a.rank
  · by_cases kinds' : c.rank = a.rank
    · exact h kinds kinds' hab hbc
    · have lt : compare b.rank c.rank = .lt := Nat.compare_eq_lt.2 (by omega)
      rw [order_of_rank_ne (a := a) (by omega), order_of_rank_ne (a := b) (by omega), ← kinds, lt]
      cases hx : order a b with
      | lt | eq => rfl
      | gt => rw [hx] at hab; cases hab
  · have lt : compare a.rank b.rank = .lt := Nat.compare_eq_lt.2 (by omega)
    have lt' : compare a.rank c.rank = .lt := Nat.compare_eq_lt.2 (by omega)
    rw [order_of_rank_ne (a := a) (by omega), order_of_rank_ne (a := a) (Ne.symm kinds), lt, lt']
    rfl

theorem orderItems_chain {as : List Term}
    (h : ∀ a ∈ as, ∀ b c, Chain (order a b) (order b c) (order a c)) (bs cs : List Term) :
    Chain (orderItems as bs) (orderItems bs cs) (orderItems as cs) := by
  induction as generalizing bs cs with
  | nil => cases bs <;> cases cs <;> intro hab hbc <;> first | rfl | cases hbc
  | cons a as ih =>
    obtain ⟨here, rest⟩ := List.forall_mem_cons.1 h
    cases bs with
    | nil => intro hab; cases hab
    | cons b bs =>
      cases cs with
      | nil => intro _ hbc; cases hbc
      | cons c cs =>
        rw [orderItems, orderItems, orderItems]
        exact (here b c).then (ih rest bs cs)

theorem orderPairs_chain {as : Pairs}
    (h : ∀ p ∈ as, ∀ b c, Chain (order p.2 b) (order b c) (order p.2 c)) (bs cs : Pairs) :
    Chain (orderPairs as bs) (orderPairs bs cs) (orderPairs as cs) := by
  induction as generalizing bs cs with
  | nil => cases bs <;> cases cs <;> intro hab hbc <;> first | rfl | cases hbc
  | cons p as ih =>
    obtain ⟨here, rest⟩ := List.forall_mem_cons.1 h
    cases bs with
    | nil => intro hab; cases hab
    | cons q bs =>
      cases cs with
      | nil => intro _ hbc; cases hbc
      | cons r cs =>
        rw [orderPairs, orderPairs, orderPairs]
        exact ((Chain.of_trans p.1 q.1 r.1).then (here q.2 r.2)).then (ih rest bs cs)

/-- The order is transitive, in the form `Chain`, which says at once what follows from two ties,
from one, and from none. -/
theorem order_chain (a b c : Term) : Chain (order a b) (order b c) (order a c) := by
  induction a using induct generalizing b c with
  | tuple as ih =>
    apply chain_of_kind
    intro hb hc
    cases b <;> cases hb
    cases c <;> cases hc
    rename_i bs cs
    exact (Chain.of_trans as.length bs.length cs.length).then (orderItems_chain ih bs cs)
  | map as ih =>
    apply chain_of_kind
    intro hb hc
    cases b <;> cases hb
    cases c <;> cases hc
    rename_i bs cs
    exact (Chain.of_trans as.length bs.length cs.length).then (orderPairs_chain ih bs cs)
  | list as ih =>
    apply chain_of_kind
    intro hb hc
    cases b <;> cases hb
    cases c <;> cases hc
    rename_i bs cs
    exact orderItems_chain ih bs cs
  | plain a tuple map list =>
    apply chain_of_kind
    intro hb hc
    rw [order_of_rank_eq hb tuple map list, order_of_rank_eq hc tuple map list,
      order_of_rank_eq (hc.trans hb.symm) (hb ▸ tuple) (hb ▸ map) (hb ▸ list), hb]
    exact .of_trans a b c

/-- **The order of terms** is a total preorder: comparisons the other way round are swapped, and they
chain. -/
instance : Std.TransCmp order where
  eq_swap {a b} := order_swap b a
  isLE_trans {a b c} hab hbc := by
    rw [order_chain a b c hab hbc]
    cases h : order a b with
    | lt => rfl
    | eq => exact hbc
    | gt => rw [h] at hab; cases hab

/-- **Comparing terms is total and consistent.** A term is equal to itself, the comparison the other way
round is the reverse, and of three terms the first is not greater than the third if it is not greater
than the second and that one is not greater than the third; it is less if one of the two is. -/
theorem order_totalPreorder (a b c : Term) :
    order a a = .eq ∧ order a b = (order b a).swap ∧
      (order a b ≠ .gt → order b c ≠ .gt →
        order a c ≠ .gt ∧ (order a b = .lt ∨ order b c = .lt → order a c = .lt)) := by
  refine ⟨Std.ReflCmp.compare_self, order_swap b a, ?_⟩
  intro hab hbc
  have chained : order a c = (order a b).then (order b c) :=
    order_chain a b c (Ordering.isLE_iff_ne_gt.2 hab) (Ordering.isLE_iff_ne_gt.2 hbc)
  rw [chained]
  constructor
  · cases h : order a b with
    | lt => exact nofun
    | eq => exact hbc
    | gt => exact absurd h hab
  · rintro (less | less)
    · rw [less]
      rfl
    · cases h : order a b with
      | lt => rfl
      | eq => exact less
      | gt => exact absurd h hab

/-- Two adjacent integers that round to one float, and that float, which stands behind both. -/
theorem order_of_adjacent :
    let i : Term := .integer 9007199254740992
    let j : Term := .integer 9007199254740993
    let x : Term := .float (Binary64.ofInt 9007199254740992)
    order i j = .lt ∧ order j x = .lt ∧ order i x = .lt := by
  intro i j x
  have first : order i j = .lt := by decide +kernel
  have second : order j x = .lt := by decide +kernel
  have both := (order_totalPreorder i j x).2.2 (by rw [first]; exact nofun) (by rw [second]; exact nofun)
  exact ⟨first, second, both.2 (.inl first)⟩

/-! ## Equal terms -/

theorem forall₂_of_orderItems {as bs : List Term} (h : orderItems as bs = .eq) :
    List.Forall₂ (fun a b => order a b = .eq) as bs := by
  induction as generalizing bs with
  | nil => cases bs <;> cases h; exact .nil
  | cons a as ih =>
    cases bs with
    | nil => cases h
    | cons b bs =>
      obtain ⟨first, rest⟩ := Ordering.then_eq_eq.1 h
      exact .cons first (ih rest)

theorem forall₂_of_orderPairs {as bs : Pairs} (h : orderPairs as bs = .eq) :
    List.Forall₂ (fun p q => p.1 = q.1 ∧ order p.2 q.2 = .eq) as bs := by
  induction as generalizing bs with
  | nil => cases bs <;> cases h; exact .nil
  | cons p as ih =>
    cases bs with
    | nil => cases h
    | cons q bs =>
      obtain ⟨first, rest⟩ := Ordering.then_eq_eq.1 h
      obtain ⟨key, value⟩ := Ordering.then_eq_eq.1 first
      exact .cons ⟨Std.LawfulEqOrd.eq_of_compare key, value⟩ (ih rest)

/-- Terms that tie are of one kind. -/
theorem rank_eq_of_order {a b : Term} (h : order a b = .eq) : b.rank = a.rank := by
  by_cases kinds : a.rank = b.rank
  · exact kinds.symm
  · rw [order_of_rank_ne kinds] at h
    exact (Nat.compare_eq_eq.1 h).symm

/-- What is equal to a list is a list of equal items. -/
theorem exists_of_order_list {as : List Term} {b : Term} (h : order (.list as) b = .eq) :
    ∃ bs, b = .list bs ∧ List.Forall₂ (fun a b => order a b = .eq) as bs := by
  have kinds := rank_eq_of_order h
  cases b <;> cases kinds
  exact ⟨_, rfl, forall₂_of_orderItems h⟩

/-- What is equal to a map is a map of equal pairs. -/
theorem exists_of_order_map {ps : Pairs} {b : Term} (h : order (.map ps) b = .eq) :
    ∃ qs, b = .map qs ∧ List.Forall₂ (fun p q => p.1 = q.1 ∧ order p.2 q.2 = .eq) ps qs := by
  have kinds := rank_eq_of_order h
  cases b <;> cases kinds
  exact ⟨_, rfl, forall₂_of_orderPairs (Ordering.then_eq_eq.1 h).2⟩

/-- `le` is transitive and, by the next lemma, total, so the library's merge sort applies. -/
theorem le_trans (a b c : Term) (hab : le a b) (hbc : le b c) : le a c :=
  Std.TransCmp.isLE_trans hab hbc

theorem le_total (a b : Term) : le a b || le b a := by
  rw [le, le, order_swap a b]
  cases order a b <;> rfl

end Term

end Conform
