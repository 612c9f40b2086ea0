import Conform.Proofs.ListRule.Arrangement

/-!
# What freeing from repetitions loses

Repetitions are found by the order of terms, which knows a function by its arity and name, while two
functions are equal only if they are one and the same. So an item that is left out may differ from every
item that is kept, but only in functions, and from one of them only in functions of one name. Apart from
floats, which are not equal to themselves if they are no numbers, nothing else is lost.
-/

namespace Conform.ListRule

open Term

variable {items : List Term} {a b t u : Term}

/-- Functions in the items are told apart by their handles, as all functions are that a session has
made. -/
def ToldApart (items : List Term) : Prop :=
  ∀ a ∈ items, ∀ b ∈ items, ∀ f g, Within (.function f) a → Within (.function g) b →
    f.handle = g.handle → f = g

theorem mem_of_mem_dropped {d : Discipline} (h : t ∈ dropped items d) : t ∈ items :=
  (perm_arrange items d).mem_iff.2 (List.mem_append_right _ h)

theorem same_self (h : t.Floatless) : same t t = true := by
  refine (same_iff h).2 (.refl (fun f => ?_) t)
  rfl

/-- Without floats, being identical to one term makes two identical: rounding is what breaks this
elsewhere. -/
theorem same_of_common (ha : a.Floatless) (hb : b.Floatless) (h : same a t = true)
    (h' : same b t = true) : same a b = true := by
  have back := ((same_iff hb).1 h').symm fun _ _ same => same.symm
  exact (same_iff ha).2 (((same_iff ha).1 h).trans (fun _ _ _ => Eq.trans) back)

/-- Equal items compare as equal. -/
theorem order_of_same (told : ToldApart items) (ha : a ∈ items) (hb : b ∈ items) (floatless : a.Floatless)
    (h : same a b = true) : order a b = .eq := by
  refine order_eq_iff.2 (((same_iff floatless).1 h).mono fun f g hf hg handles => ?_)
  obtain rfl := told a ha b hb f g hf hg handles
  exact ⟨rfl, rfl⟩

/-- Items that are kept are one if they compare as equal. -/
theorem eq_of_kept (hu : t ∈ arrange items .unique) (hv : u ∈ arrange items .unique)
    (h : order t u = .eq) : t = u := by
  have first : t ∈ (items.find? (ties t)).toList :=
    filter_arrange_unique items t ▸ List.mem_filter.2 ⟨hu, ties_self t⟩
  have second : u ∈ (items.find? (ties t)).toList :=
    filter_arrange_unique items t ▸ List.mem_filter.2 ⟨hv, ties_iff.2 h⟩
  rw [Option.mem_toList] at first second
  exact Option.some.inj (first.symm.trans second)

/-- **Freeing from repetitions loses functions only.** Of a list without floats, an item that is left out
is built like one that is kept, up to functions of one name and arity. And each item that is left out
equals one that is kept if and only if no two items differ in such functions alone. -/
theorem dropped_equal_unless_homonyms (floatless : ∀ t ∈ items, t.Floatless) (told : ToldApart items) :
    (∀ t ∈ dropped items .unique, ∃ u ∈ arrange items .unique, Congruent Function.Homonym t u) ∧
    ((∀ t ∈ dropped items .unique, ∃ u ∈ arrange items .unique, same t u = true) ↔
      ∀ a ∈ items, ∀ b ∈ items, Congruent Function.Homonym a b → same a b = true) := by
  refine ⟨fun t ht => ?_, fun lossless a ha b hb alike => ?_, fun distinct t ht => ?_⟩
  · obtain ⟨u, hu, tied⟩ := exists_kept (d := .unique) (mem_of_mem_dropped ht)
    exact ⟨u, hu, order_eq_iff.1 tied⟩
  · have equal_kept (t : Term) (ht : t ∈ items) : ∃ u ∈ arrange items .unique, same t u = true := by
      rcases List.mem_append.1 ((perm_arrange items .unique).mem_iff.1 ht) with kept | out
      · exact ⟨t, kept, same_self (floatless t ht)⟩
      · exact lossless t out
    obtain ⟨u, hu, first⟩ := equal_kept a ha
    obtain ⟨v, hv, second⟩ := equal_kept b hb
    have tied : order u v = .eq := by
      have left := order_of_same told ha (mem_of_mem_arrange hu) (floatless a ha) first
      have right := order_of_same told hb (mem_of_mem_arrange hv) (floatless b hb) second
      rw [← Std.TransCmp.congr_left left, ← Std.TransCmp.congr_right right]
      exact order_eq_iff.2 alike
    obtain rfl := eq_of_kept hu hv tied
    exact same_of_common (floatless a ha) (floatless b hb) first second
  · have member := mem_of_mem_dropped ht
    obtain ⟨u, hu, tied⟩ := exists_kept (d := .unique) member
    exact ⟨u, hu, distinct t member u (mem_of_mem_arrange hu) (order_eq_iff.1 tied)⟩

/-- Of three handlers two are of one name and arity, each with a function of its own. -/
theorem dropped_equal_unless_homonyms_handlers :
    let handler (name : String) (handle : Nat) : Term :=
      .tuple [.string name, .function ⟨name, 1, handle⟩]
    let handlers : List Term := [handler "log" 0, handler "retry" 1, handler "log" 2]
    (∀ t ∈ handlers, t.Floatless) ∧ ToldApart handlers ∧
      (∀ t ∈ dropped handlers .unique, ∃ u ∈ arrange handlers .unique,
        Congruent Function.Homonym t u) ∧
      ¬∀ t ∈ dropped handlers .unique, ∃ u ∈ arrange handlers .unique, same t u = true := by
  intro handler handlers
  have floatless : ∀ t ∈ handlers, t.Floatless := by simp [handlers, handler, Floatless]
  have made : ∀ t ∈ handlers, t.Every fun u => ∀ f, u = .function f →
      f ∈ [(⟨"log", 1, 0⟩ : Function), ⟨"retry", 1, 1⟩, ⟨"log", 1, 2⟩] := by
    simp [handlers, handler]
  have distinct : ∀ f ∈ [(⟨"log", 1, 0⟩ : Function), ⟨"retry", 1, 1⟩, ⟨"log", 1, 2⟩],
      ∀ g ∈ [(⟨"log", 1, 0⟩ : Function), ⟨"retry", 1, 1⟩, ⟨"log", 1, 2⟩],
        f.handle = g.handle → f = g := by decide
  have told : ToldApart handlers := fun a ha b hb f g hf hg =>
    distinct f (made a ha _ hf f rfl) g (made b hb _ hg g rfl)
  obtain ⟨alike, lossless⟩ := dropped_equal_unless_homonyms floatless told
  refine ⟨floatless, told, alike, fun none => ?_⟩
  have homonyms : Congruent Function.Homonym (handler "log" 0) (handler "log" 2) :=
    .tuple (.cons (.string _) (.cons (.function ⟨rfl, rfl⟩) .nil))
  have same := lossless.1 none _ (.head _) _ (.tail _ (.tail _ (.head _))) homonyms
  cases same

/-- Two functions of one name and arity, which are not equal: the second is left out. -/
theorem unique_drops_another_function :
    let identity (handle : Nat) : Term := .function ⟨"id", 1, handle⟩
    let functions : List Term := [identity 0, identity 1]
    (∀ t ∈ functions, t.Floatless) ∧ identity 1 ∈ dropped functions .unique ∧
      ¬∃ u ∈ arrange functions .unique, same (identity 1) u = true := by
  intro identity functions
  have sorted : functions.mergeSort le = functions :=
    List.mergeSort_of_pairwise (by decide +kernel)
  have kept : arrange functions .unique = [identity 0] := by
    rw [arrange, sorted]
    rfl
  have out : dropped functions .unique = [identity 1] := by
    rw [dropped, sorted]
    rfl
  refine ⟨by simp [functions, identity, Floatless], by rw [out]; exact .head _, ?_⟩
  rw [kept]
  rintro ⟨u, hu, same⟩
  obtain rfl := List.mem_singleton.1 hu
  cases same

end Conform.ListRule
