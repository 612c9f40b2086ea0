import Conform.Proofs.Level.Semantics

/-!
# Where accepted values come from

An accepted value of a list is made of what its items were accepted as, one of alternatives is what
the one that took it made of it, and a pair of a level is what the rule of its key made of some value.
For steady dispatchers the journal does not matter, so each of these is a dispatch at the journal
before the call.
-/

namespace Conform

/-- The field is accepted with this value. -/
def Accepts (d : Dispatch) (key : Key) (value : Term) (l : Level) (j : Journal) (taken : Term) :
    Prop :=
  ∃ flattened unknown, (d key value l j).1 = .ok (.accept key taken flattened unknown)

namespace Dispatch

/-- Each value of a list was accepted for an item. -/
theorem mem_of_items {dispatch : Term → Run Found} (quiet : ∀ t, Run.Quiet (dispatch t))
    {path : Path} {ts values : List Term} {flattened : List (Path × Term)} {unknown : List Path}
    {j j' : Journal} (h : items path dispatch ts j = (.ok (values, flattened, unknown), j')) :
    ∀ v ∈ values, ∃ t ∈ ts, ∃ key flattened unknown,
      (dispatch t j).1 = .ok (.accept key v flattened unknown) := by
  induction ts generalizing values flattened unknown j with
  | nil =>
    cases h
    exact List.forall_mem_nil _
  | cons t ts ih =>
    obtain ⟨found, j₁, first, h⟩ := Run.bind_eq_ok.1 h
    have same : j₁.session = j.session := by
      have := (quiet t).session j
      rwa [first] at this
    have rest {values' flattened' unknown'}
        (h : items path dispatch ts j₁ = (.ok (values', flattened', unknown'), j')) :
        ∀ v ∈ values', ∃ u ∈ t :: ts, ∃ key flattened unknown,
          (dispatch u j).1 = .ok (.accept key v flattened unknown) := by
      intro v hv
      obtain ⟨u, hu, key, f, n, taken⟩ := ih h v hv
      exact ⟨u, List.mem_cons_of_mem _ hu, key, f, n, ((quiet u).answer j j₁ same.symm).trans taken⟩
    cases found with
    | accept key value f n =>
      obtain ⟨⟨values', f', n'⟩, j₂, others, h⟩ := Run.bind_eq_ok.1 h
      cases h
      refine List.forall_mem_cons.2 ⟨⟨t, List.mem_cons_self, key, f, n, ?_⟩, rest others⟩
      rw [first]
    | drop => exact rest h
    | replaceAll pairs => cases h

/-- What the first of several takes one of them takes. -/
theorem mem_of_firstOf {count : Nat} {ds : List Dispatch} (steady : ∀ d ∈ ds, d.Steady) {key : Key}
    {value : Term} {l : Level} {j : Journal} {found : Found}
    (h : (firstOf count ds key value l j).1 = .ok found) :
    ∃ d ∈ ds, (d key value l j).1 = .ok found := by
  induction ds generalizing j with
  | nil => cases h
  | cons d ds ih =>
    obtain ⟨first, others⟩ := List.forall_mem_cons.1 steady
    have same := (first.quiet key value l).session j
    rcases hd : d key value l j with ⟨e | f, j₁⟩ <;> rw [hd] at same
    · rw [firstOf_of_error hd] at h
      split at h
      · obtain ⟨d', hd', taken⟩ := ih others h
        have agree := ((others d' hd').quiet key value l).answer j j₁ same.symm
        exact ⟨d', List.mem_cons_of_mem _ hd', agree.trans taken⟩
      · cases h
    · rw [firstOf_of_ok hd] at h
      exact ⟨d, List.mem_cons_self, by rw [hd]; exact h⟩

end Dispatch

variable {key : Key} {value taken : Term} {l : Level} {j : Journal}

/-- What a plain list rule accepted came element by element from the value's elements. -/
theorem Rule.accepts_list {d : Discipline} {inner : Rule} (plain : inner.Every Rule.Plain)
    (h : Accepts (Rule.list d inner).dispatch key value l j taken) :
    ∃ values, taken = .list (ListRule.arrange values d) ∧
      ∀ v ∈ values, ∃ t ∈ ListRule.elements value, Accepts inner.dispatch key t l j v := by
  have steady := Rule.steady_dispatch plain
  obtain ⟨flattened, unknown, h⟩ := h
  rw [Rule.dispatch] at h
  obtain ⟨values, f, n, j₁, hitems, same⟩ := Dispatch.exists_of_list h
  cases same
  refine ⟨values, rfl, ?_⟩
  intro v hv
  obtain ⟨t, ht, key', f', n', accepted⟩ :=
    Dispatch.mem_of_items (fun t => steady.quiet key t l) hitems v hv
  cases steady.keeps key t l j _ accepted
  exact ⟨t, ht, f', n', accepted⟩

/-- What plain alternatives accepted one of them accepts by itself. -/
theorem Rule.accepts_oneOf {rules : List Rule} (plain : (Rule.oneOf rules).Every Rule.Plain)
    (h : Accepts (Rule.oneOf rules).dispatch key value l j taken) :
    ∃ r ∈ rules, Accepts r.dispatch key value l j taken := by
  obtain ⟨flattened, unknown, h⟩ := h
  rw [Rule.dispatch, Rule.dispatchAll_eq_map] at h
  have steady : ∀ d ∈ rules.map Rule.dispatch, d.Steady := by
    intro d hd
    obtain ⟨r, hr, rfl⟩ := List.mem_map.1 hd
    exact Rule.steady_dispatch (plain.alternative hr)
  obtain ⟨d, hd, h⟩ := Dispatch.mem_of_firstOf steady h
  obtain ⟨r, hr, rfl⟩ := List.mem_map.1 hd
  exact ⟨r, hr, flattened, unknown, h⟩

/-- A nested schema takes the accepted pairs of its level. -/
theorem Rule.accepts_nested {s : Schema} (plain : (Rule.nested s).Every Rule.Plain) :
    Accepts (Rule.nested s).dispatch key value l j taken ↔
      ∃ pairs out, value.pairs? = some pairs ∧ taken = .map out ∧
        Account.settle (s.alone (.start (l.path.child key) l.options) j) (l.path.child key)
          (if pairs.isEmpty then [] else s.defaults) s.mandatoryKeys pairs = .ok out := by
  constructor
  · rintro ⟨flattened, unknown, h⟩
    cases hp : value.pairs? with
    | none =>
      rw [Rule.dispatch, s.dispatch_eq, Dispatch.nested_of_none hp] at h
      cases h
    | some pairs =>
      have map := h
      rw [Rule.dispatch, s.dispatch_eq] at map
      obtain ⟨inner, same⟩ := Dispatch.exists_of_nested map
      cases same
      exact ⟨pairs, inner.accepted, rfl, rfl,
        ((Schema.dispatch_accepted plain hp key l j).2 _).1 ⟨_, _, h⟩⟩
  · rintro ⟨pairs, out, hp, rfl, h⟩
    exact ((Schema.dispatch_accepted plain hp key l j).2 out).2 h

/-- A pair that a level's own pair contributes is what the rule of its key takes. -/
theorem Schema.accepts_of_alone {s : Schema} (plain : (Rule.nested s).Every Rule.Plain)
    {p q : Key × Term} {part : Pairs} (h : s.alone l j p = .ok part) (hq : q ∈ part) :
    q.1 = p.1 ∧ ∃ r, s.ruleFor? j.session.symbols q.1 = some r ∧
      Accepts r.dispatch p.1 p.2 l j q.2 := by
  obtain ⟨key, single⟩ := keepsKeys_alone plain l j p part h q hq
  subst single
  refine ⟨key, ?_⟩
  unfold alone at h
  cases hr : s.ruleFor? j.session.symbols p.1 with
  | none => rw [hr] at h; cases h
  | some rule =>
    rw [hr] at h
    dsimp only at h
    rw [key]
    refine ⟨rule, hr, ?_⟩
    rcases hd : (rule.dispatch p.1 p.2 l j).1 with e | found <;> rw [hd] at h
    · cases h
    · cases found with
      | accept k v flattened unknown =>
        cases h
        obtain rfl : k = p.1 := key
        exact ⟨flattened, unknown, hd⟩
      | drop => cases h
      | replaceAll pairs =>
        obtain ⟨k, -, mem⟩ := mem_of_ruleFor? hr
        cases (Rule.steady_dispatch (plain.field mem)).keeps p.1 p.2 l j _ hd

end Conform
