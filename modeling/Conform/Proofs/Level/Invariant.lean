import Conform.Proofs.Level.Equations

/-!
# What a level keeps

A level changes in two ways only: a key without a rule is noted, or what a rule finds is taken in. What both
keep is kept by each step, and so by a whole run.

`Keeps` names the two ways, `Keeps.process` is the step and `Keeps.run` the run.
-/

namespace Conform

namespace Level

/-- Noting a key and taking in what the rules of these fields find both keep this. -/
structure Keeps (I : Level → Prop) (fields : List (Key × Rule)) : Prop where
  noted : ∀ l key, I l → I { l with unknown := l.unknown ++ [l.path.child key] }
  taken : ∀ f ∈ fields, ∀ key value l j found, (f.2.dispatch key value l j).1 = .ok found → I l →
    I (l.take found)

namespace Keeps

variable {I : Level → Prop} {fields : List (Key × Rule)} (keeps : Keeps I fields)
include keeps

/-- The step keeps the invariant, whichever of the two things it does. -/
theorem process {l l' : Level} {p : Key × Term} {j j' : Journal} (h : I l)
    (step : l.process (Rule.dispatchFields fields) p j = (.ok l', j')) : I l' := by
  cases processed_of_process step with
  | noted => exact keeps.noted l p.1 h
  | taken mem found =>
    rw [Rule.dispatchFields_eq_map] at mem
    obtain ⟨f, hf, same⟩ := List.mem_map.1 mem
    cases same
    exact keeps.taken f hf _ _ l j _ found h

theorem processDefault {l l' : Level} {p : Key × Term} {j j' : Journal} (h : I l)
    (step : l.processDefault (Rule.dispatchFields fields) p j = (.ok l', j')) : I l' := by
  by_cases has : l.has p.1 = true
  · rw [processDefault_of_has has] at step
    cases step
    exact h
  · rw [processDefault_of_not_has has] at step
    exact keeps.process h step

/-- The part of a run over the pairs keeps the invariant. -/
theorem gather {pairs : Pairs} {l l' : Level} {j j' : Journal} (h : I l)
    (gathered : l.gather (Rule.dispatchFields fields) pairs j = (.ok l', j')) : I l' :=
  Run.invariant_of_foldlM (fun _ _ _ _ _ => keeps.process) h gathered

/-- A whole run keeps the invariant, defaults and mandatory names included. -/
theorem run {defaults : Pairs} {mandatory : List Key} {fill : Bool} {pairs : Pairs} {l l' : Level}
    {j j' : Journal} (h : I l)
    (run : Level.run (Rule.dispatchFields fields) defaults mandatory fill pairs l j = (.ok l', j')) :
    I l' := by
  obtain ⟨l₁, j₁, gathered, run⟩ := Run.bind_eq_ok.1 run
  obtain ⟨l₂, j₂, filled, demanded⟩ := Run.bind_eq_ok.1 run
  rw [eq_of_demand demanded]
  exact Run.invariant_of_foldlM (fun _ _ _ _ _ => keeps.processDefault) (keeps.gather h gathered) filled

end Keeps

end Level

end Conform
