import Mathlib.Data.List.Forall2

/-!
# Lists that are related place by place

Two lists of one length may be related item by item. Nothing here is about the items.
-/

namespace Conform

variable {α β γ : Type} {P Q : α → β → Prop} {as : List α} {bs : List β} {cs : List γ}

theorem forall₂_and :
    List.Forall₂ (fun a b => P a b ∧ Q a b) as bs ↔ List.Forall₂ P as bs ∧ List.Forall₂ Q as bs := by
  constructor
  · intro h
    exact ⟨h.imp fun _ _ h => h.1, h.imp fun _ _ h => h.2⟩
  · rintro ⟨first, second⟩
    induction first with
    | nil => exact .nil
    | cons here _ ih =>
      cases second with
      | cons here' rest' => exact .cons ⟨here, here'⟩ (ih rest')

/-- Two relations that agree on the items of a list relate it to the same lists. -/
theorem forall₂_congr_of_mem (h : ∀ a ∈ as, ∀ b, P a b ↔ Q a b) :
    List.Forall₂ P as bs ↔ List.Forall₂ Q as bs := by
  induction as generalizing bs with
  | nil => cases bs <;> simp
  | cons a as ih =>
    obtain ⟨here, rest⟩ := List.forall_mem_cons.1 h
    cases bs with
    | nil => simp
    | cons b bs => rw [List.forall₂_cons, List.forall₂_cons, here b, ih rest]

theorem forall₂_imp_of_mem (h : List.Forall₂ P as bs) (step : ∀ a ∈ as, ∀ b ∈ bs, P a b → Q a b) :
    List.Forall₂ Q as bs := by
  obtain ⟨length, pairs⟩ := List.forall₂_iff_zip.1 h
  refine List.forall₂_iff_zip.2 ⟨length, fun mem => ?_⟩
  exact step _ (List.of_mem_zip mem).1 _ (List.of_mem_zip mem).2 (pairs mem)

/-- Relations that chain on two items chain on lists of them. -/
theorem forall₂_trans {R : β → γ → Prop} {S : α → γ → Prop} (h : List.Forall₂ P as bs)
    (h' : List.Forall₂ R bs cs) (step : ∀ a b c, P a b → R b c → S a c) : List.Forall₂ S as cs := by
  induction h generalizing cs with
  | nil =>
    cases h'
    exact .nil
  | cons here _ ih =>
    cases h' with
    | cons here' rest' => exact .cons (step _ _ _ here here') (ih rest')

/-- A member of one list has its counterpart in the other. -/
theorem exists_of_forall₂ (h : List.Forall₂ P as bs) {a : α} (mem : a ∈ as) : ∃ b ∈ bs, P a b := by
  induction h with
  | nil => cases mem
  | @cons _ b _ _ first _ ih =>
    rcases List.mem_cons.1 mem with rfl | mem
    · exact ⟨b, List.mem_cons_self, first⟩
    · obtain ⟨b, hb, here⟩ := ih mem
      exact ⟨b, List.mem_cons_of_mem _ hb, here⟩

end Conform
