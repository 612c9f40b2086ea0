import Conform.Proofs.Level.Visit
import Conform.Proofs.Schema.Conformance

/-!
# Where errors point

The path of an error is that of a place the call has come to. From the top down, each key on the way is
that of a pair or of a default whose turn has come at its level, and its rule leads to the next level: as
a nested schema, as the items of a list, or as one of several alternatives. The last key is that of the
field which fails, or one that is missing at the end of its level. Alternatives are gone into for faults
of callbacks only: any other error in them is given up, and when no alternative is left the choice fails
as a whole, at its own field.

The `locates_*` lemmas go through the kinds of rules that can fail.
-/

namespace Conform

namespace ParseError

/-- The error is the fault of a callback. -/
def IsFault : ParseError → Prop
  | .callbackFault _ => True
  | _ => False

/-- The error is about a key that is missing. -/
def IsMissing : ParseError → Prop
  | .missing _ => True
  | _ => False

theorem isFault_of_path {e : ParseError} {path : Path} (h : e.path? = some path)
    (data : e.isData = false) : e.IsFault := by
  cases e with
  | callbackFault => trivial
  | unrecognized => cases h
  | invalid | missing | refused => cases data

end ParseError

namespace Visit

/-- The error is about this key of the level: its field fails with the error, or the key is mandatory
and no accepted pair has its name. -/
inductive Blames (v : Visit) : Key → ParseError → Prop where
  | field {p : Key × Term} {l : Level} {j k : Journal} {r : Rule} {e : ParseError} :
    v.Dispatches p l j → v.schema.ruleFor? j.session.symbols p.1 = some r →
    r.dispatch p.1 p.2 l j = (.error e, k) → ¬e.IsMissing → Blames v p.1 e
  | missing {l : Level} {key : Key} : v.Fills l → key ∈ v.schema.mandatoryKeys →
    (∀ p ∈ l.accepted, p.1.name ≠ key.name) → Blames v key (.missing (v.path.child key))

/-- The error is about a key of a level that some keys lead to, and has the path of these keys. -/
def Explains (v : Visit) (e : ParseError) : Prop :=
  ∃ keys last u, v.Leads e.IsFault keys u ∧ u.Blames last e ∧
    e.path? = some (v.path.descend (keys ++ [last]))

theorem ne_of_not_has {l : Level} {key : Key} (h : l.has key = false) : ∀ p ∈ l.accepted, p.1.name ≠ key.name := by
  intro p hp same
  have has : l.has key = true := List.any_eq_true.2 ⟨p, hp, by simpa [Key.sameName] using same⟩
  rw [has] at h
  cases h

end Visit

/-- Where the rule fails, the error is about the field itself, or is explained by a level that the field
leads to. -/
def Rule.Locates (r : Rule) : Prop :=
  ∀ key value (l : Level) j e k, r.dispatch key value l j = (.error e, k) →
    (e.path? = some (l.path.child key) ∧ ¬e.IsMissing) ∨
      ∃ v, r.Enters e.IsFault key value l j v ∧ v.path = l.path.child key ∧ v.Explains e

/-- A level explains an error of its run if the rules of its fields locate theirs. -/
theorem Visit.explains_of_run {v : Visit} (locates : ∀ f ∈ v.schema.fields, f.2.Locates)
    {e : ParseError} {k : Journal} (h : v.run = (.error e, k)) : v.Explains e := by
  rcases failure_of_run h with ⟨p, l, j, r, turn, rule, failed⟩ | ⟨l, fills, key, hk, absent, rfl⟩
  · obtain ⟨name, -, mem⟩ := Schema.mem_of_ruleFor? rule
    have path : l.path = v.path := (stays_of_dispatches turn).path
    rcases locates _ mem p.1 p.2 l j e k failed with
      ⟨own, kind⟩ | ⟨w, enters, there, keys, last, u, leads, blames, below⟩
    · refine ⟨[], p.1, v, .here v, .field turn rule failed kind, ?_⟩
      rw [own, path]
      rfl
    · refine ⟨p.1 :: keys, last, u, .down turn rule enters leads, blames, ?_⟩
      rw [below, there, path]
      rfl
  · have path : l.path = v.path := (stays_of_fills fills).path
    rw [path]
    exact ⟨[], key, v, .here v, .missing fills hk (ne_of_not_has absent), rfl⟩

/-! ## Each kind of rule -/

namespace Rule

variable {key : Key} {value : Term} {l : Level} {j k : Journal} {e : ParseError}

theorem locates_type (tag : Tag) : (Rule.type tag).Locates := by
  intro key value l j e k h
  rw [dispatch] at h
  unfold Dispatch.type at h
  split at h <;> cases h
  exact .inl ⟨rfl, id⟩

/-- A callback's fault is at its key, whether it rejects or panics. -/
theorem locates_callback (c : Callback) : (Rule.callback c).Locates := by
  intro key value l j e k h
  rw [dispatch] at h
  rcases hv : c.apply key value l j.session with ⟨_ | v, session⟩
  · rw [Dispatch.callback_of_none hv] at h
    cases h
    exact .inl ⟨rfl, id⟩
  · rw [Dispatch.callback_of_some hv] at h
    cases v <;> cases h <;> exact .inl ⟨rfl, id⟩

/-- A list's fault is that of an element at the list's own key: elements have no paths. -/
theorem locates_list {d : Discipline} {inner : Rule} (locates : inner.Locates) :
    (Rule.list d inner).Locates := by
  intro key value l j e k h
  rw [dispatch] at h
  rcases Run.error_of_bind h with failed | ⟨_, _, _, ⟨⟩⟩
  rcases Dispatch.turn_of_items failed with rfl | ⟨t, j', turn, failed⟩
  · exact .inl ⟨rfl, id⟩
  · rcases locates key t l j' e k failed with own | ⟨v, enters, there, explains⟩
    · exact .inl own
    · exact .inr ⟨v, .item turn enters, there, explains⟩

/-- An error of a choice is about the choice as a whole, or a fault in an alternative. -/
theorem locates_oneOf {rules : List Rule} (locates : ∀ r ∈ rules, r.Locates) :
    (Rule.oneOf rules).Locates := by
  intro key value l j e k h
  rw [dispatch, dispatchAll_eq_map] at h
  rcases turn_of_firstOf h with rfl | ⟨r, hr, j', turn, failed, data⟩
  · exact .inl ⟨rfl, id⟩
  · rcases locates r hr key value l j' e k failed with own | ⟨v, enters, there, explains⟩
    · exact .inl own
    · -- an error that is not given up has a path and is not about the data: only faults are left
      obtain ⟨keys, last, u, leads, blames, path⟩ := explains
      have fault := e.isFault_of_path path data
      exact .inr ⟨v, .alternative fault turn enters, there, keys, last, u, leads, blames, path⟩

/-- A nested fault is below the key, at a pair, at a default, or at a missing name. -/
theorem locates_nested {s : Schema} (locates : ∀ f ∈ s.fields, f.2.Locates) :
    (Rule.nested s).Locates := by
  intro key value l j e k h
  rw [dispatch, s.dispatch_eq] at h
  cases hp : value.pairs? with
  | none =>
    rw [Dispatch.nested_of_none hp] at h
    cases h
    exact .inl ⟨rfl, id⟩
  | some pairs =>
    rw [Dispatch.nested_of_pairs hp] at h
    rcases Run.error_of_bind h with failed | ⟨_, _, _, ⟨⟩⟩
    exact .inr ⟨_, .nested hp, rfl, Visit.explains_of_run locates failed⟩

/-- Every rule locates its faults, by the cases above. The fault of alternatives is at the key. -/
theorem locates (r : Rule) : r.Locates := by
  induction r using Rule.induct with
  | type tag => exact locates_type tag
  | list d inner ih => exact locates_list ih
  | oneOf rules ih => exact locates_oneOf ih
  | nested s ih => exact locates_nested ih
  | callback c => exact locates_callback c
  | ignore =>
    intro key value l j e k h
    rw [dispatch] at h
    cases h

/-- A choice that fails for the data fails as a whole. -/
theorem eq_of_oneOf {rules : List Rule} (h : (Rule.oneOf rules).dispatch key value l j = (.error e, k))
    (fault : ¬e.IsFault) :
    e = .invalid (l.path.child key) (.noAlternative value.kind rules.length) := by
  rw [dispatch, dispatchAll_eq_map] at h
  rcases turn_of_firstOf h with whole | ⟨r, _, j', _, failed, data⟩
  · exact whole
  · rcases r.locates key value l j' e k failed with ⟨path, -⟩ | ⟨_, _, _, _, _, _, _, _, path⟩ <;>
      exact (fault (e.isFault_of_path path data)).elim

end Rule

namespace Schema

/-- **Every error points at a place of the input.** Whatever the schema, the input and the options: if
the input has no pairs, the error says so and has the base path. Otherwise there are a level that some
keys lead to, from the top, and a last key, which the error is about: a pair or a default of that level
fails, or the key is mandatory and no accepted pair has its name. The path of the error is the base path
followed by these keys. Into alternatives the keys lead for the fault of a callback only. Any other error
of a choice is that no alternative takes the value, and has the path of the choice's own field; and this
is the error whenever each alternative fails for the data. -/
theorem error_points_at_place (s : Schema) (options : Options) (input : Term) (j : Journal) :
    (∀ e, (s.parse options input j).1 = .error e →
      (input.pairs? = none ∧ e = .invalid ⟨options.path⟩ (.notPairs input.kind)) ∨
      ∃ pairs keys last v, input.pairs? = some pairs ∧
        (s.visit options pairs j).Leads e.IsFault keys v ∧ v.Blames last e ∧
        e.path? = some (Path.descend ⟨options.path⟩ (keys ++ [last]))) ∧
    ∀ rules key value (l : Level) j,
      let whole : ParseError := .invalid (l.path.child key) (.noAlternative value.kind rules.length)
      let choice := (Rule.oneOf rules).dispatch key value l j
      (∀ e, choice.1 = .error e → ¬e.IsFault → e = whole) ∧
      ((∀ r j', Turn (Rule.AlternativePasses key value l) rules j r j' →
        ∃ k, Rule.AlternativePasses key value l j' r k) → choice.1 = .error whole) := by
  constructor
  · intro e h
    cases hp : input.pairs? with
    | none =>
      rw [parse_of_none hp] at h
      cases h
      exact .inl ⟨rfl, rfl⟩
    | some pairs =>
      rw [parse_of_pairs hp] at h
      rcases Run.error_of_bind (Prod.ext h rfl) with failed | ⟨_, _, _, ⟨⟩⟩
      obtain ⟨keys, last, v, leads, blames, path⟩ :=
        Visit.explains_of_run (v := s.visit options pairs j) (fun f _ => f.2.locates) failed
      exact .inr ⟨pairs, keys, last, v, rfl, leads, blames, path⟩
  · intro rules key value l j whole choice
    refine ⟨fun e h fault => Rule.eq_of_oneOf (Prod.ext h rfl) fault, fun passes => ?_⟩
    have none_left : (Dispatch.firstOf rules.length (rules.map Rule.dispatch) key value l j).1
        = .error whole := Rule.firstOf_of_passes passes
    simp only [choice]
    rwa [Rule.dispatch, Rule.dispatchAll_eq_map]

/-- The host that a spare backend of a cluster lacks, below `app`. -/
theorem error_points_at_place_cluster :
    let main : Term := .map [(.text "host", .string "a")]
    let given : Term := .map [(.text "main", main),
      (.text "spares", .list [main, .map [(.text "port", .integer 8080)]])]
    let options : Options := { Options.default with path := "app" }
    let e : ParseError := .missing ⟨"app.spares.host"⟩
    (cluster.parse options given default).1 = .error e ∧
      ∃ pairs keys last v, given.pairs? = some pairs ∧
        (cluster.visit options pairs default).Leads e.IsFault keys v ∧ v.Blames last e ∧
        some ⟨"app.spares.host"⟩ = some (Path.descend ⟨"app"⟩ (keys ++ [last])) := by
  intro main given options e
  have failed : (cluster.parse options given default).1 = .error e := rfl
  rcases (error_points_at_place cluster options given default).1 e failed with ⟨none, -⟩ | place
  · cases none
  · exact ⟨failed, place⟩

end Schema

end Conform
