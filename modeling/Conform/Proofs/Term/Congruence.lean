import Conform.Proofs.Pointwise
import Conform.Proofs.Term.Order
import Conform.Proofs.Term.Written

/-!
# Terms that are built alike

Two terms are built alike if they are of the same kinds place by place and hold the same, except that
functions may only be related in a given way. The order of terms, their equality and their identity are
all of this kind and differ in what they ask of functions. So each of them goes into lists, tuples and
maps place by place, and two such relations agree if they agree on what has no parts.
-/

namespace Conform.Term

/-! ## Terms built alike -/

/-- The second term is built as the first one: of the same kinds, the same keys in the same
representation, the same plain values, URIs of the same text, and functions that `R` relates. -/
inductive Congruent (R : Function → Function → Prop) : Term → Term → Prop where
  | atom (s : Symbol) : Congruent R (.atom s) (.atom s)
  | boolean (b : Bool) : Congruent R (.boolean b) (.boolean b)
  | integer (i : Int64) : Congruent R (.integer i) (.integer i)
  | float (x : Binary64) : Congruent R (.float x) (.float x)
  | string (s : String) : Congruent R (.string s) (.string s)
  | binary (bytes : List UInt8) : Congruent R (.binary bytes) (.binary bytes)
  | list {as bs : List Term} :
    List.Forall₂ (Congruent R) as bs → Congruent R (.list as) (.list bs)
  | tuple {as bs : List Term} :
    List.Forall₂ (Congruent R) as bs → Congruent R (.tuple as) (.tuple bs)
  | map {ps qs : Pairs} : List.Forall₂ (fun p q => p.1 = q.1) ps qs →
    List.Forall₂ (fun p q => Congruent R p.2 q.2) ps qs → Congruent R (.map ps) (.map qs)
  | address (a : Net.Address) : Congruent R (.address a) (.address a)
  | network (n : Net.Network) : Congruent R (.network n) (.network n)
  | uri {u v : Uri} : u.text = v.text → Congruent R (.uri u) (.uri v)
  | timestamp (t : Time.Timestamp) : Congruent R (.timestamp t) (.timestamp t)
  | function {f g : Function} : R f g → Congruent R (.function f) (.function g)

/-- The two terms are structurally the same. -/
def Identical : Term → Term → Prop :=
  Congruent (· = ·)

/-- There is no function in the term, at any depth. -/
def Functionless (t : Term) : Prop :=
  t.Every fun u => ∀ f, u ≠ .function f

variable {R S : Function → Function → Prop} {a b c : Term} {as bs : List Term} {ps qs : Pairs}

/-- Induction over terms that are built alike, with one case for those without parts. -/
theorem Congruent.induct {P : Term → Term → Prop}
    (plain : ∀ a b, a.rank ≠ 8 → a.rank ≠ 9 → a.rank ≠ 10 → Congruent R a b → P a b)
    (list : ∀ as bs, List.Forall₂ P as bs → P (.list as) (.list bs))
    (tuple : ∀ as bs, List.Forall₂ P as bs → P (.tuple as) (.tuple bs))
    (map : ∀ ps qs : Pairs, List.Forall₂ (fun p q => p.1 = q.1) ps qs →
      List.Forall₂ (fun p q => P p.2 q.2) ps qs → P (.map ps) (.map qs))
    (h : Congruent R a b) : P a b := by
  refine Congruent.rec (motive_1 := fun a b _ => P a b)
    (motive_2 := fun as bs _ => List.Forall₂ P as bs)
    (motive_3 := fun ps qs _ => List.Forall₂ (fun p q : Key × Term => P p.2 q.2) ps qs)
    ?_ ?_ ?_ ?_ ?_ ?_ (fun _ ih => list _ _ ih) (fun _ ih => tuple _ _ ih)
    (fun keys _ ih => map _ _ keys ih) ?_ ?_ ?_ ?_ ?_ .nil (fun _ _ ih ih' => .cons ih ih') .nil
    (fun _ _ ih ih' => List.Forall₂.cons (R := fun p q : Key × Term => P p.2 q.2) ih ih') h
  all_goals
    intros
    exact plain _ _ nofun nofun nofun (by constructor <;> assumption)

theorem Congruent.refl (refl : ∀ f, R f f) (t : Term) : Congruent R t t := by
  induction t using Term.induct with
  | plain t tuple map list =>
    cases t with
    | list | tuple | map => contradiction
    | function f => exact .function (refl f)
    | uri u => exact .uri rfl
    | _ => constructor
  | tuple items ih => exact .tuple (List.forall₂_same.2 ih)
  | map pairs ih => exact .map (List.forall₂_same.2 fun _ _ => rfl) (List.forall₂_same.2 ih)
  | list items ih => exact .list (List.forall₂_same.2 ih)

theorem Congruent.symm (symm : ∀ f g, R f g → R g f) (h : Congruent R a b) : Congruent R b a := by
  refine Congruent.induct (P := fun a b => Congruent R b a) ?plain ?list ?tuple ?map h
  case plain =>
    intro a b tuple map list h
    cases h with
    | list | tuple | map => contradiction
    | uri same => exact .uri same.symm
    | function related => exact .function (symm _ _ related)
    | _ => constructor
  case list =>
    intro as bs items
    exact .list items.flip
  case tuple =>
    intro as bs items
    exact .tuple items.flip
  case map =>
    intro ps qs keys values
    exact .map (keys.imp fun _ _ same => same.symm).flip values.flip

/-- Congruence is transitive if the relation on functions is, by induction on the first term. -/
theorem Congruent.trans (trans : ∀ f g h, R f g → R g h → R f h) (h : Congruent R a b)
    (h' : Congruent R b c) : Congruent R a c := by
  refine Congruent.induct (P := fun a b => ∀ c, Congruent R b c → Congruent R a c) ?plain ?list ?tuple
    ?map h c h'
  case plain =>
    intro a b tuple map list h c h'
    cases h with
    | list | tuple | map => contradiction
    | uri same =>
      cases h' with
      | uri same' => exact .uri (same.trans same')
    | function related =>
      cases h' with
      | function related' => exact .function (trans _ _ _ related related')
    | _ => exact h'
  case list =>
    intro as bs items c h'
    cases h' with
    | list items' => exact .list (forall₂_trans items items' fun _ _ c first next => first c next)
  case tuple =>
    intro as bs items c h'
    cases h' with
    | tuple items' => exact .tuple (forall₂_trans items items' fun _ _ c first next => first c next)
  case map =>
    intro ps qs keys values c h'
    cases h' with
    | map keys' values' =>
      exact .map (forall₂_trans keys keys' fun _ _ _ => Eq.trans)
        (forall₂_trans values values' fun _ _ q first next => first q.2 next)

/-- Built alike in one way is built alike in another that includes it, as far as the functions in the two
terms go. -/
theorem Congruent.mono (mono : ∀ f g, Within (.function f) a → Within (.function g) b → R f g → S f g)
    (h : Congruent R a b) : Congruent S a b := by
  refine Congruent.induct (P := fun a b =>
    (∀ f g, Within (.function f) a → Within (.function g) b → R f g → S f g) → Congruent S a b)
    ?plain ?list ?tuple ?map h mono
  case plain =>
    intro a b tuple map list h mono
    cases h with
    | list | tuple | map => contradiction
    | uri same => exact .uri same
    | function related => exact .function (mono _ _ (.refl _) (.refl _) related)
    | _ => constructor
  case list =>
    intro as bs items mono
    refine .list (forall₂_imp_of_mem items fun a ha b hb h => h fun f g hf hg => ?_)
    exact mono f g (.item ha hf) (.item hb hg)
  case tuple =>
    intro as bs items mono
    refine .tuple (forall₂_imp_of_mem items fun a ha b hb h => h fun f g hf hg => ?_)
    exact mono f g (.part ha hf) (.part hb hg)
  case map =>
    intro ps qs keys values mono
    refine .map keys (forall₂_imp_of_mem values fun p hp q hq h => h fun f g hf hg => ?_)
    exact mono f g (.value hp hf) (.value hq hg)

/-- Without functions it does not matter how functions are related. -/
theorem congruent_iff_of_functionless (h : a.Functionless) : Congruent R a b ↔ Congruent S a b :=
  ⟨.mono fun f _ within => absurd rfl (h _ within f), .mono fun f _ within => absurd rfl (h _ within f)⟩

/-! ## Relations that go part by part -/

/-- A relation that holds of lists, tuples and maps if it holds of what is in them, place by place. -/
structure PartByPart (E : Term → Term → Prop) : Prop where
  list : ∀ {as b}, E (.list as) b ↔ ∃ bs, b = .list bs ∧ List.Forall₂ E as bs
  tuple : ∀ {as b}, E (.tuple as) b ↔ ∃ bs, b = .tuple bs ∧ List.Forall₂ E as bs
  map : ∀ {ps b}, E (.map ps) b ↔ ∃ qs : Pairs, b = .map qs ∧
    List.Forall₂ (fun p q => p.1 = q.1) ps qs ∧ List.Forall₂ (fun p q => E p.2 q.2) ps qs

/-- Two such relations agree if they agree on terms without parts. -/
theorem PartByPart.iff {E E' : Term → Term → Prop} (h : PartByPart E) (h' : PartByPart E')
    {p : Term → Prop} (plain : ∀ a b, a.rank ≠ 8 → a.rank ≠ 9 → a.rank ≠ 10 → p a → (E a b ↔ E' a b))
    (every : a.Every p) : E a b ↔ E' a b := by
  induction a using Term.induct generalizing b with
  | plain a tuple map list => exact plain a b tuple map list every.here
  | tuple as ih =>
    rw [h.tuple, h'.tuple]
    exact exists_congr fun bs => and_congr_right fun _ =>
      forall₂_congr_of_mem fun t ht _ => ih t ht (every.part ht)
  | map ps ih =>
    rw [h.map, h'.map]
    exact exists_congr fun qs => and_congr_right fun _ => and_congr_right fun _ =>
      forall₂_congr_of_mem fun p hp _ => ih p hp (every.value hp)
  | list as ih =>
    rw [h.list, h'.list]
    exact exists_congr fun bs => and_congr_right fun _ =>
      forall₂_congr_of_mem fun t ht _ => ih t ht (every.item ht)

/-- Congruent lists, tuples and maps are congruent part by part. -/
theorem partByPart_congruent (R : Function → Function → Prop) : PartByPart (Congruent R) where
  list := by
    intro as b
    constructor
    · intro h
      cases h with
      | list items => exact ⟨_, rfl, items⟩
    · rintro ⟨bs, rfl, items⟩
      exact .list items
  tuple := by
    intro as b
    constructor
    · intro h
      cases h with
      | tuple items => exact ⟨_, rfl, items⟩
    · rintro ⟨bs, rfl, items⟩
      exact .tuple items
  map := by
    intro ps b
    constructor
    · intro h
      cases h with
      | map keys values => exact ⟨_, rfl, keys, values⟩
    · rintro ⟨qs, rfl, keys, values⟩
      exact .map keys values

end Conform.Term
