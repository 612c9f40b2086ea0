import Conform.Proofs.Term.Congruence

/-!
# Terms that compare as equal

Two terms compare as equal if they are built alike: of the same kinds, keys and plain values, place by
place. Two kinds of values are told apart by less than what they are. Functions are compared by arity
and name and not by their handles, so what the order says of two functions is that they go by the same
name; URIs are compared by their text, which is what they are known by. An integer is never equal to a
float, for where the numbers are the same the integer comes first.
-/

namespace Conform

/-! ## Plain values -/

instance : Std.LawfulEqOrd Symbol where
  compare_self {_} := Std.ReflOrd.compare_self (α := String)
  eq_of_compare {a b} h :=
    congrArg Symbol.mk (Std.LawfulEqOrd.eq_of_compare (show compare a.name b.name = .eq from h))

/-- A number's place in the order tells its sign and its magnitude. -/
theorem Binary64.eq_of_rank {x y : Binary64} (h : x.rank = y.rank) : x = y := by
  have parts : x.negative = y.negative ∧ x.magnitude = y.magnitude := by
    unfold rank at h
    cases hx : x.negative <;> cases hy : y.negative <;> rw [hx, hy] at h <;>
      simp at h ⊢ <;> omega
  rw [← ofMagnitude_self x, parts.1, parts.2, ofMagnitude_self y]

instance : Std.LawfulEqOrd Binary64 where
  compare_self {_} := Std.ReflOrd.compare_self (α := Int)
  eq_of_compare {x y} h :=
    Binary64.eq_of_rank (Std.LawfulEqOrd.eq_of_compare (show compare x.rank y.rank = .eq from h))

instance : Std.LawfulEqOrd Time.Instant where
  eq_of_compare {a b} h := by
    obtain ⟨seconds, nanos⟩ := Ordering.then_eq_eq.1 h
    cases a
    cases b
    exact congrArg₂ _ (Std.LawfulEqOrd.eq_of_compare seconds) (Std.LawfulEqOrd.eq_of_compare nanos)

instance : Std.LawfulEqOrd Time.Precision where
  eq_of_compare {a b} h := by
    have digits : a.digits = b.digits := Std.LawfulEqOrd.eq_of_compare h
    cases a <;> cases b <;> first | rfl | cases digits

instance : Std.LawfulEqOrd Time.Timestamp where
  eq_of_compare {a b} h := by
    obtain ⟨instant, precision⟩ := Ordering.then_eq_eq.1 h
    cases a
    cases b
    exact congrArg₂ _ (Std.LawfulEqOrd.eq_of_compare instant)
      (Std.LawfulEqOrd.eq_of_compare precision)

instance : Std.LawfulEqOrd Net.Address where
  eq_of_compare {a b} h := by
    cases a <;> cases b
    case v4.v4 a b =>
      exact congrArg Net.Address.v4 (Vector.toList_inj.1 (Std.LawfulEqOrd.eq_of_compare h))
    case v6.v6 a b =>
      exact congrArg Net.Address.v6 (Vector.toList_inj.1 (Std.LawfulEqOrd.eq_of_compare h))
    case v4.v6 => cases show Ordering.lt = .eq from h
    case v6.v4 => cases show Ordering.gt = .eq from h

instance : Std.LawfulEqOrd Net.Network where
  eq_of_compare {a b} h := by
    obtain ⟨address, length⟩ := Ordering.then_eq_eq.1 h
    cases a
    cases b
    exact congrArg₂ _ (Std.LawfulEqOrd.eq_of_compare address) (Std.LawfulEqOrd.eq_of_compare length)

/-- Two functions that go by the same name: they take as many arguments and are called the same, and
may still be two. -/
def Function.Homonym (f g : Function) : Prop :=
  f.arity = g.arity ∧ f.name = g.name

namespace Term

variable {a b : Term} {as bs : List Term} {ps qs : Pairs}

/-! ## Equal in the order -/

theorem orderItems_eq_iff : orderItems as bs = .eq ↔ List.Forall₂ (fun a b => order a b = .eq) as bs := by
  refine ⟨forall₂_of_orderItems, fun h => ?_⟩
  induction h with
  | nil => rfl
  | cons here _ ih => rw [orderItems, here, ih]; rfl

/-- Maps tie iff their keys are equal and their values tie, in the same order. -/
theorem orderPairs_eq_iff : orderPairs ps qs = .eq ↔
    List.Forall₂ (fun p q => p.1 = q.1) ps qs ∧ List.Forall₂ (fun p q => order p.2 q.2 = .eq) ps qs := by
  rw [← forall₂_and]
  refine ⟨forall₂_of_orderPairs, fun h => ?_⟩
  induction h with
  | nil => rfl
  | @cons p q _ _ here _ ih =>
    rw [orderPairs, here.1, here.2, ih, Std.ReflOrd.compare_self]
    rfl

/-- Lengths are compared on the way and tell nothing more than the parts do. -/
theorem partByPart_order : PartByPart fun a b => order a b = .eq where
  list := by
    intro as b
    constructor
    · exact exists_of_order_list
    · rintro ⟨bs, rfl, items⟩
      exact orderItems_eq_iff.2 items
  tuple := by
    intro as b
    constructor
    · intro h
      have kinds := rank_eq_of_order h
      cases b <;> cases kinds
      exact ⟨_, rfl, orderItems_eq_iff.1 (Ordering.then_eq_eq.1 h).2⟩
    · rintro ⟨bs, rfl, items⟩
      exact Ordering.then_eq_eq.2 ⟨Nat.compare_eq_eq.2 items.length_eq, orderItems_eq_iff.2 items⟩
  map := by
    intro ps b
    constructor
    · intro h
      obtain ⟨qs, rfl, pairs⟩ := exists_of_order_map h
      exact ⟨qs, rfl, forall₂_and.1 pairs⟩
    · rintro ⟨qs, rfl, keys, values⟩
      exact Ordering.then_eq_eq.2
        ⟨Nat.compare_eq_eq.2 keys.length_eq, orderPairs_eq_iff.2 ⟨keys, values⟩⟩

/-- Terms without parts compare as equal if they hold the same. -/
theorem order_plain_eq_iff (tuple : a.rank ≠ 8) (map : a.rank ≠ 9) (list : a.rank ≠ 10) :
    order a b = .eq ↔ Congruent Function.Homonym a b := by
  constructor
  · intro h
    have kinds := rank_eq_of_order h
    cases a <;> cases b <;> cases kinds
    case mp.integer.float | mp.float.integer => cases (Ordering.then_eq_eq.1 h).2
    case mp.tuple.tuple | mp.map.map | mp.list.list => contradiction
    case mp.uri.uri => exact .uri (Std.LawfulEqOrd.eq_of_compare h)
    case mp.function.function =>
      obtain ⟨arity, name⟩ := Ordering.then_eq_eq.1 h
      exact .function ⟨Std.LawfulEqOrd.eq_of_compare arity, Std.LawfulEqOrd.eq_of_compare name⟩
    all_goals
      obtain rfl := Std.LawfulEqOrd.eq_of_compare h
      constructor
  · intro h
    cases h with
    | list => exact absurd rfl list
    | tuple => exact absurd rfl tuple
    | map => exact absurd rfl map
    | @uri u v same =>
      change compare u.text v.text = .eq
      rw [same, Std.ReflOrd.compare_self]
    | @function f g same =>
      change (compare f.arity g.arity).then (compare f.name g.name) = .eq
      rw [same.1, same.2, Std.ReflOrd.compare_self, Std.ReflOrd.compare_self]
      rfl
    | _ => exact Std.ReflCmp.compare_self

/-- Terms compare as equal if and only if they are built alike, up to functions of one name and
arity. -/
theorem order_eq_iff : order a b = .eq ↔ Congruent Function.Homonym a b :=
  partByPart_order.iff (partByPart_congruent _) (p := fun _ => True)
    (fun _ _ tuple map list _ => order_plain_eq_iff tuple map list) fun _ _ => trivial

/-! ## Equality -/

/-- There is no float in the term, at any depth. -/
def Floatless (t : Term) : Prop :=
  t.Every fun u => ∀ x, u ≠ .float x

theorem sameItems_iff : sameItems as bs = true ↔ List.Forall₂ (fun a b => same a b = true) as bs := by
  induction as generalizing bs with
  | nil => cases bs <;> simp [sameItems]
  | cons a as ih => cases bs <;> simp [sameItems, ih]

theorem samePairs_iff : samePairs ps qs = true ↔
    List.Forall₂ (fun p q => p.1 = q.1) ps qs ∧ List.Forall₂ (fun p q => same p.2 q.2 = true) ps qs := by
  rw [← forall₂_and]
  induction ps generalizing qs with
  | nil => cases qs <;> simp [samePairs]
  | cons p ps ih => cases qs <;> simp [samePairs, ih]

theorem partByPart_same : PartByPart fun a b => same a b = true where
  list := by intro as b; cases b <;> simp [same, sameItems_iff]
  tuple := by intro as b; cases b <;> simp [same, sameItems_iff]
  map := by intro ps b; cases b <;> simp [same, samePairs_iff]

/-- Terms without parts and other than floats are equal if they hold the same, and functions if they are
the same. -/
theorem same_plain_iff (tuple : a.rank ≠ 8) (map : a.rank ≠ 9) (list : a.rank ≠ 10)
    (float : ∀ x, a ≠ .float x) :
    same a b = true ↔ Congruent (fun f g => f.handle = g.handle) a b := by
  constructor
  · intro h
    cases a <;> cases b <;> simp only [same, Bool.false_eq_true, beq_iff_eq] at h
    case tuple.tuple | map.map | list.list => contradiction
    case float.float => exact absurd rfl (float _)
    case uri.uri => exact .uri h
    case function.function => exact .function h
    all_goals
      obtain rfl := h
      constructor
  · intro h
    cases h with
    | list => exact absurd rfl list
    | tuple => exact absurd rfl tuple
    | map => exact absurd rfl map
    | float => exact absurd rfl (float _)
    | _ => simp [same, *]

/-- Terms without floats are equal if and only if they are built alike with the same functions. -/
theorem same_iff (h : a.Floatless) :
    same a b = true ↔ Congruent (fun f g => f.handle = g.handle) a b :=
  partByPart_same.iff (partByPart_congruent _)
    (fun _ _ tuple map list float => same_plain_iff tuple map list float) h

/-- **What compares as equal is identical.** Two terms without functions compare as equal if and only if
they are structurally the same: the same kinds and plain values place by place, keys in the same
representation, floats of the same bits, timestamps of the same instant and precision, URIs of the same
text. -/
theorem order_eq_iff_identical (h : a.Functionless) : order a b = .eq ↔ Identical a b :=
  order_eq_iff.trans (congruent_iff_of_functionless h)

/-- Two terms that differ in one number, which is an integer in the first and the float of the same value
in the second. -/
theorem order_eq_iff_identical_limit :
    let limit (n : Term) : Term := .map [(.text "limit", .list [.tuple [.atom ⟨"max"⟩, n]])]
    let whole : Term := limit (.integer 9007199254740992)
    let float : Term := limit (.float (Binary64.ofInt 9007199254740992))
    whole.Functionless ∧ order whole float = .lt ∧ ¬Identical whole float := by
  intro limit whole float
  have functionless : whole.Functionless := by simp [whole, limit, Functionless]
  have less : order whole float = .lt := by decide +kernel
  refine ⟨functionless, less, fun same => ?_⟩
  have equal := (order_eq_iff_identical functionless).2 same
  cases less.symm.trans equal

end Term

end Conform
