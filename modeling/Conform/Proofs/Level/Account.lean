import Conform.Proofs.Level.Settlement
import Conform.Proofs.Schema.Built

/-!
# The account of a level

A level said without its state. Every pair is dispatched alone; what they contribute, one behind the
other, is the first part of the level. Those defaults whose name is not in it are dispatched alone,
and what they contribute is the second part. The level succeeds if all of these succeed and no
mandatory name is missing from the two parts; otherwise it fails with the first fault, in that order.

The names of a level's defaults are distinct, so asking before each default what has been accepted
by then comes to asking once, after the pairs. That is where `fill` and `gather` meet.

The step is `gather_of_succeeds` or `gather_of_first`, and from the two `settle_of_succeeds` and
`settle_of_firstFault` tell the outcome in every case.
-/

namespace Conform

variable (step : Key × Term → Except ParseError Pairs)

/-- The dispatch gave a contribution. -/
def Succeeds (r : Except ParseError Pairs) : Prop :=
  ∃ new, r = .ok new

/-- What pairs contribute, one behind the other. -/
def contributions (pairs : Pairs) : Pairs :=
  pairs.flatMap fun p => (step p).toOption.getD []

/-- The pairs whose names have not been taken. -/
def absentFrom (taken pairs : Pairs) : Pairs :=
  pairs.filter fun p => !named taken p.1

/-- The defaults that are left when the pairs have been dispatched. -/
def leftOver (defaults pairs : Pairs) : Pairs :=
  absentFrom (contributions step pairs) defaults

/-- What the defaults that are left contribute. -/
def filledIn (defaults pairs : Pairs) : Pairs :=
  contributions step (leftOver step defaults pairs)

/-- The two parts of a level. -/
def bothParts (defaults pairs : Pairs) : Pairs :=
  contributions step pairs ++ filledIn step defaults pairs

/-- Without pairs all defaults are left. -/
theorem bothParts_nil (defaults : Pairs) : bothParts step defaults [] = contributions step defaults := by
  have all : leftOver step defaults [] = defaults := List.filter_eq_self.2 fun _ _ => rfl
  rw [bothParts, filledIn, all]
  rfl

/-- The first fault of a level: at a pair, else at a default, else at a mandatory key. -/
inductive FirstFault (path : Path) (defaults : Pairs) (mandatory : List Key) (pairs : Pairs) :
    ParseError → Prop where
  | pair {before after : Pairs} {p : Key × Term} {e : ParseError} :
    pairs = before ++ p :: after → (∀ q ∈ before, Succeeds (step q)) → step p = .error e →
    FirstFault path defaults mandatory pairs e
  | default {before after : Pairs} {d : Key × Term} {e : ParseError} :
    (∀ p ∈ pairs, Succeeds (step p)) → leftOver step defaults pairs = before ++ d :: after →
    (∀ q ∈ before, Succeeds (step q)) → step d = .error e →
    FirstFault path defaults mandatory pairs e
  | missing {before after : List Key} {k : Key} :
    (∀ p ∈ pairs, Succeeds (step p)) → (∀ d ∈ leftOver step defaults pairs, Succeeds (step d)) →
    mandatory = before ++ k :: after →
    (∀ q ∈ before, named (bothParts step defaults pairs) q = true) →
    named (bothParts step defaults pairs) k = false →
    FirstFault path defaults mandatory pairs (.missing (path.child k))

/-- The account of a level: `step` is the dispatch of a pair alone, `r` the accepted pairs or the
error that the level comes to. -/
structure Account (path : Path) (defaults : Pairs) (mandatory : List Key) (pairs : Pairs)
    (r : Except ParseError Pairs) : Prop where
  succeeds : Succeeds r ↔ (∀ p ∈ pairs, Succeeds (step p)) ∧
    (∀ d ∈ leftOver step defaults pairs, Succeeds (step d)) ∧
    ∀ k ∈ mandatory, named (bothParts step defaults pairs) k = true
  taken : ∀ taken, r = .ok taken → taken = bothParts step defaults pairs
  distinct : DistinctNames (filledIn step defaults pairs)
  disjoint : ∀ d ∈ filledIn step defaults pairs, ∀ p ∈ contributions step pairs,
    d.1.name ≠ p.1.name
  fails : ∀ e, r = .error e ↔ FirstFault step path defaults mandatory pairs e

namespace Account

variable {step}

/-- A dispatch that takes a pair under its own key or drops it. -/
def KeepsKeys (step : Key × Term → Except ParseError Pairs) : Prop :=
  ∀ p new, step p = .ok new → ∀ q ∈ new, q.1 = p.1 ∧ new = [q]

/-! ## Gathering -/

/-- Either all dispatches succeed or there is a first one that does not. -/
theorem all_or_first (step : Key × Term → Except ParseError Pairs) (pairs : Pairs) :
    (∀ p ∈ pairs, Succeeds (step p)) ∨ ∃ before p after e, pairs = before ++ p :: after ∧
      (∀ q ∈ before, Succeeds (step q)) ∧ step p = .error e := by
  induction pairs with
  | nil => exact .inl (List.forall_mem_nil _)
  | cons p ps ih =>
    cases hp : step p with
    | error e => exact .inr ⟨[], p, ps, e, rfl, List.forall_mem_nil _, hp⟩
    | ok new =>
      rcases ih with all | ⟨before, q, after, e, rfl, ok, hq⟩
      · exact .inl (List.forall_mem_cons.2 ⟨⟨new, hp⟩, all⟩)
      · exact .inr ⟨p :: before, q, after, e, rfl, List.forall_mem_cons.2 ⟨⟨new, hp⟩, ok⟩, hq⟩

theorem contributions_cons {p : Key × Term} {new : Pairs} (h : step p = .ok new) (ps : Pairs) :
    contributions step (p :: ps) = new ++ contributions step ps := by
  rw [contributions, List.flatMap_cons, h]
  rfl

/-- Where every pair passes, `gather` adds what each contributes, in order. -/
theorem gather_of_succeeds {pairs : Pairs} (h : ∀ p ∈ pairs, Succeeds (step p)) (taken : Pairs) :
    gather step taken pairs = .ok (taken ++ contributions step pairs) := by
  induction pairs generalizing taken with
  | nil => simp [gather, contributions]
  | cons p ps ih =>
    obtain ⟨⟨new, hp⟩, rest⟩ := List.forall_mem_cons.1 h
    rw [gather, hp, contributions_cons hp, ← List.append_assoc]
    exact ih rest _

/-- The first pair that fails decides, whatever comes after it. -/
theorem gather_of_first {before after : Pairs} {p : Key × Term} {e : ParseError}
    (h : ∀ q ∈ before, Succeeds (step q)) (hp : step p = .error e) (taken : Pairs) :
    gather step taken (before ++ p :: after) = .error e := by
  induction before generalizing taken with
  | nil => rw [List.nil_append, gather, hp]; rfl
  | cons q qs ih =>
    obtain ⟨⟨new, hq⟩, rest⟩ := List.forall_mem_cons.1 h
    rw [List.cons_append, gather, hq]
    exact ih rest _

/-- With distinct names, no default changes which later ones are left. -/
theorem fill_eq_gather (keeps : KeepsKeys step) {defaults : Pairs} (distinct : DistinctNames defaults)
    (taken : Pairs) : fill step taken defaults = gather step taken (absentFrom taken defaults) := by
  induction defaults generalizing taken with
  | nil => rfl
  | cons d ds ih =>
    obtain ⟨fresh, distinct⟩ := List.nodup_cons.1 distinct
    by_cases hd : named taken d.1 = true
    · have skip : absentFrom taken (d :: ds) = absentFrom taken ds :=
        List.filter_cons_of_neg (by simp [hd])
      rw [fill, if_pos hd, skip, ih distinct]
    · have left : absentFrom taken (d :: ds) = d :: absentFrom taken ds :=
        List.filter_cons_of_pos (by simp [hd])
      rw [fill, if_neg hd, left, gather]
      cases hstep : step d with
      | error e => rfl
      | ok new =>
        have same : absentFrom (taken ++ new) ds = absentFrom taken ds := by
          apply List.filter_congr
          intro d' hd'
          have absent : named new d'.1 = false := by
            apply Bool.eq_false_iff.2
            intro present
            obtain ⟨q, hq, name⟩ := named_iff.1 present
            rw [(keeps d new hstep q hq).1] at name
            exact fresh (List.mem_map.2 ⟨d', hd', name.symm⟩)
          rw [named_append, absent, Bool.or_false]
        exact (ih distinct _).trans (congrArg _ same)

/-! ## Demanding -/

/-- Nothing is missing where every mandatory name is there. -/
theorem demand_of_all {keys : List Key} {taken : Pairs} (h : ∀ k ∈ keys, named taken k = true)
    (path : Path) : demand path keys taken = .ok taken := by
  have none : keys.find? (fun k => !named taken k) = none :=
    List.find?_eq_none.2 fun k hk => by simp [h k hk]
  rw [demand, none]

/-- The first absent name is the one that `demand` reports. -/
theorem demand_of_first {before after : List Key} {k : Key} {taken : Pairs}
    (h : ∀ q ∈ before, named taken q = true) (hk : named taken k = false) (path : Path) :
    demand path (before ++ k :: after) taken = .error (.missing (path.child k)) := by
  have found : (before ++ k :: after).find? (fun k => !named taken k) = some k :=
    List.find?_eq_some_iff_append.2 ⟨by simp [hk], before, after, rfl, fun q hq => by simp [h q hq]⟩
  rw [demand, found]

theorem all_or_first_absent (taken : Pairs) (keys : List Key) :
    (∀ k ∈ keys, named taken k = true) ∨ ∃ before k after, keys = before ++ k :: after ∧
      (∀ q ∈ before, named taken q = true) ∧ named taken k = false := by
  cases h : keys.find? (fun k => !named taken k) with
  | none => exact .inl fun k hk => by simpa using List.find?_eq_none.1 h k hk
  | some k =>
    obtain ⟨hk, before, after, rfl, present⟩ := List.find?_eq_some_iff_append.1 h
    exact .inr ⟨before, k, after, rfl, fun q hq => by simpa using present q hq, by simpa using hk⟩

/-! ## Settling -/

section Settle

variable {path : Path} {defaults pairs : Pairs} {mandatory : List Key}

/-- Where no pair and no needed default fails, only the mandatory names can still go wrong. -/
theorem settle_of_succeeds (keeps : KeepsKeys step) (distinct : DistinctNames defaults)
    (hp : ∀ p ∈ pairs, Succeeds (step p))
    (hd : ∀ d ∈ leftOver step defaults pairs, Succeeds (step d)) :
    settle step path defaults mandatory pairs
      = demand path mandatory (bothParts step defaults pairs) := by
  rw [settle, gather_of_succeeds hp, List.nil_append]
  change (fill step (contributions step pairs) defaults >>= _) = _
  rw [fill_eq_gather keeps distinct]
  change (gather step _ (leftOver step defaults pairs) >>= _) = _
  rw [gather_of_succeeds hd]
  rfl

/-- A fault of `FirstFault` is the outcome. With `settle_of_succeeds` the outcome of `settle` is
known in every case. -/
theorem settle_of_firstFault (keeps : KeepsKeys step) (distinct : DistinctNames defaults)
    {e : ParseError} (h : FirstFault step path defaults mandatory pairs e) :
    settle step path defaults mandatory pairs = .error e := by
  cases h with
  | pair split ok hp =>
    rw [settle, split, gather_of_first ok hp]
    rfl
  | default all split ok hd =>
    rw [settle, gather_of_succeeds all, List.nil_append]
    change (fill step (contributions step pairs) defaults >>= _) = _
    rw [fill_eq_gather keeps distinct]
    change (gather step _ (leftOver step defaults pairs) >>= _) = _
    rw [split, gather_of_first ok hd]
    rfl
  | missing all left split present absent =>
    rw [settle_of_succeeds keeps distinct all left, split]
    exact demand_of_first present absent path

/-- Settling gives the two parts, if nothing in them fails or is missing, or the first fault. -/
theorem settle_cases (keeps : KeepsKeys step) (distinct : DistinctNames defaults) :
    ((∀ p ∈ pairs, Succeeds (step p)) ∧
      (∀ d ∈ leftOver step defaults pairs, Succeeds (step d)) ∧
      (∀ k ∈ mandatory, named (bothParts step defaults pairs) k = true) ∧
      settle step path defaults mandatory pairs = .ok (bothParts step defaults pairs)) ∨
    ∃ e, FirstFault step path defaults mandatory pairs e ∧
      settle step path defaults mandatory pairs = .error e := by
  have fault : (∃ e, FirstFault step path defaults mandatory pairs e) →
      ∃ e, FirstFault step path defaults mandatory pairs e ∧
        settle step path defaults mandatory pairs = .error e :=
    fun ⟨e, h⟩ => ⟨e, h, settle_of_firstFault keeps distinct h⟩
  rcases all_or_first step pairs with all | ⟨_, _, _, e, split, ok, hp⟩
  · rcases all_or_first step (leftOver step defaults pairs) with left | ⟨_, _, _, e, split, ok, hd⟩
    · rcases all_or_first_absent (bothParts step defaults pairs) mandatory with
        present | ⟨_, k, _, split, present, absent⟩
      · refine .inl ⟨all, left, present, ?_⟩
        rw [settle_of_succeeds keeps distinct all left, demand_of_all present]
      · exact .inr (fault ⟨_, .missing all left split present absent⟩)
    · exact .inr (fault ⟨e, .default all split ok hd⟩)
  · exact .inr (fault ⟨e, .pair split ok hp⟩)

/-! ## The two parts -/

theorem mem_contributions {ps : Pairs} {q : Key × Term} (h : q ∈ contributions step ps) :
    ∃ p ∈ ps, ∃ new, step p = .ok new ∧ q ∈ new := by
  obtain ⟨p, hp, hq⟩ := List.mem_flatMap.1 h
  cases hstep : step p with
  | error e => rw [hstep] at hq; cases hq
  | ok new => rw [hstep] at hq; exact ⟨p, hp, new, hstep, hq⟩

/-- A step that keeps keys turns distinct names into distinct names. -/
theorem distinctNames_contributions (keeps : KeepsKeys step) {ps : Pairs} (h : DistinctNames ps) :
    DistinctNames (contributions step ps) := by
  induction ps with
  | nil => exact List.nodup_nil
  | cons p ps ih =>
    obtain ⟨fresh, rest⟩ := List.nodup_cons.1 h
    cases hp : step p with
    | error e => rw [contributions, List.flatMap_cons, hp]; exact ih rest
    | ok new =>
      rw [contributions_cons hp]
      cases new with
      | nil => exact ih rest
      | cons q qs =>
        obtain ⟨key, single⟩ := keeps p (q :: qs) hp q List.mem_cons_self
        obtain rfl : qs = [] := (List.cons.inj single).2
        refine List.nodup_cons.2 ⟨fun mem => fresh ?_, ih rest⟩
        obtain ⟨q', hq', name⟩ := List.mem_map.1 mem
        obtain ⟨p', hp', new', hnew', hq'⟩ := mem_contributions hq'
        rw [(keeps p' new' hnew' q' hq').1] at name
        exact List.mem_map.2 ⟨p', hp', name.trans (congrArg Key.name key)⟩

theorem distinctNames_filledIn (keeps : KeepsKeys step) (h : DistinctNames defaults) :
    DistinctNames (filledIn step defaults pairs) :=
  distinctNames_contributions keeps (h.sublist (List.filter_sublist.map _))

/-- A default that is filled in has a name that no accepted pair has. -/
theorem disjoint_filledIn (keeps : KeepsKeys step) {d p : Key × Term}
    (hd : d ∈ filledIn step defaults pairs) (hp : p ∈ contributions step pairs) :
    d.1.name ≠ p.1.name := by
  intro name
  obtain ⟨d', hd', new, hnew, hd⟩ := mem_contributions hd
  have absent := (List.mem_filter.1 hd').2
  rw [← (keeps d' new hnew d hd).1, named_iff.2 ⟨p, hp, name.symm⟩] at absent
  cases absent

/-- What is settled on pairs is what the account says. -/
theorem of_settle (keeps : KeepsKeys step) (distinct : DistinctNames defaults) :
    Account step path defaults mandatory pairs (settle step path defaults mandatory pairs) := by
  have cases : ((∀ p ∈ pairs, Succeeds (step p)) ∧
      (∀ d ∈ leftOver step defaults pairs, Succeeds (step d)) ∧
      (∀ k ∈ mandatory, named (bothParts step defaults pairs) k = true) ∧
      settle step path defaults mandatory pairs = .ok (bothParts step defaults pairs)) ∨
      ∃ e, FirstFault step path defaults mandatory pairs e ∧
        settle step path defaults mandatory pairs = .error e := settle_cases keeps distinct
  refine ⟨⟨?_, ?_⟩, ?_, distinctNames_filledIn keeps distinct,
    fun d hd p hp => disjoint_filledIn keeps hd hp, fun e => ⟨fun h => ?_, ?_⟩⟩
  · rintro ⟨taken, h⟩
    rcases cases with ⟨all, left, present, -⟩ | ⟨e, -, he⟩
    · exact ⟨all, left, present⟩
    · rw [he] at h; cases h
  · rintro ⟨all, left, present⟩
    exact ⟨_, (settle_of_succeeds keeps distinct all left).trans (demand_of_all present path)⟩
  · intro taken h
    rcases cases with ⟨-, -, -, hok⟩ | ⟨e, -, he⟩
    · rw [hok] at h; cases h; rfl
    · rw [he] at h; cases h
  · rcases cases with ⟨-, -, -, hok⟩ | ⟨e', fault, he⟩
    · rw [hok] at h; cases h
    · rw [he] at h; cases h; exact fault
  · exact settle_of_firstFault keeps distinct

end Settle

end Account

end Conform
