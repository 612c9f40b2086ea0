import Conform.Proofs.Level.Trace
import Conform.Proofs.Level.Visit
import Conform.Proofs.Rule.Keyless

/-!
# What becomes of a verdict

A callback may stand in a rule by itself, as an alternative, or as the rule of a list's items, with as
many of these around each other as there are. Outside lists its verdict counts as if it stood there by
itself: a pair that it takes, under whichever key, is accepted at the level, and stays there until some
rule replaces all that the level has accepted by other pairs. For an item of a list the verdict can only
take the item; a list with an item that would replace the level fails. But the key that it takes the item
under is never looked at, and no error tells so.
-/

namespace Conform

/-- The pair that the verdict takes for a field. -/
def Verdict.pair? (key : Key) (value : Term) : Verdict → Option (Key × Term)
  | .accept => some (key, value)
  | .replace new => some (key, new)
  | .rename newKey new => some (newKey, new)
  | .reject | .error _ | .replaceAll _ => none

/-- A verdict that puts one pair finds one leaf. -/
theorem Verdict.eq_leaf_of_pair? {path : Path} {key : Key} {value : Term} {v : Verdict} {found : Found}
    {taken : Key × Term} (h : Dispatch.ofVerdict path key value v = .ok found)
    (pair : v.pair? key value = some taken) : found = Dispatch.leaf taken.1 taken.2 := by
  cases v with
  | accept | replace | rename =>
    cases h
    cases pair
    rfl
  | reject | error | replaceAll => cases pair

/-- A verdict that neither fails nor replaces the level takes a pair. -/
theorem Verdict.exists_pair? {path : Path} {key : Key} {value : Term} {v : Verdict} {found : Found}
    (h : Dispatch.ofVerdict path key value v = .ok found) (single : ∀ pairs, found ≠ .replaceAll pairs) :
    ∃ taken, v.pair? key value = some taken := by
  cases v with
  | accept | replace | rename => exact ⟨_, rfl⟩
  | reject | error => cases h
  | replaceAll pairs =>
    cases h
    exact (single pairs rfl).elim

/-! ## Answers that count -/

/-- If the rule takes the field, it is by the callback's answer to this question: the callback is the
rule, or that of the alternative that takes the value, or that of an item. `listed` says whether there is
a list around it. -/
inductive Rule.Takes : Rule → Key → Term → Level → Journal → (listed : Bool) → Question → Prop where
  | here (c : Callback) (key : Key) (value : Term) (l : Level) (j : Journal) :
    Takes (.callback c) key value l j false ⟨c, key, value, l, j.session⟩
  | alternative {rules : List Rule} {r : Rule} {key : Key} {value : Term} {l : Level} {j j' k : Journal}
    {found : Found} {listed : Bool} {q : Question} : Turn (AlternativePasses key value l) rules j r j' →
    r.dispatch key value l j' = (.ok found, k) → Takes r key value l j' listed q →
    Takes (.oneOf rules) key value l j listed q
  | item {d : Discipline} {inner : Rule} {key : Key} {value t : Term} {l : Level} {j j' : Journal}
    {listed : Bool} {q : Question} :
    Turn (Dispatch.ItemPasses fun t => inner.dispatch key t l) (ListRule.elements value) j t j' →
    Takes inner key t l j' listed q → Takes (.list d inner) key value l j true q

namespace Rule.Takes

variable {r : Rule} {key : Key} {value : Term} {l : Level} {j : Journal} {listed : Bool} {q : Question}
  {found : Found}

/-- Outside lists what is found is what the verdict says. -/
theorem of_outside (h : r.Takes key value l j listed q) (outside : listed = false)
    (taken : (r.dispatch key value l j).1 = .ok found) :
    ∃ v, q.verdict? = some v ∧ Dispatch.ofVerdict (l.path.child key) key value v = .ok found := by
  induction h generalizing found with
  | here c key value l j =>
    rw [dispatch] at taken
    exact Dispatch.exists_of_callback taken
  | alternative turn decided _ ih =>
    rw [dispatch, dispatchAll_eq_map, firstOf_of_turn turn decided] at taken
    cases taken
    exact ih outside (congrArg Prod.fst decided)
  | item => cases outside

/-- In a list, as elsewhere if the level is not replaced, the verdict takes the value that the callback
was asked about. -/
theorem takes_pair (h : r.Takes key value l j listed q)
    (taken : (r.dispatch key value l j).1 = .ok found)
    (single : listed = true ∨ ∀ pairs, found ≠ .replaceAll pairs) :
    ∃ v pair, q.verdict? = some v ∧ v.pair? q.key q.value = some pair := by
  -- going into a list turns the first alternative of `single` into the second one, for the item
  induction h generalizing found with
  | here c key value l j =>
    rw [dispatch] at taken
    obtain ⟨v, verdict, decides⟩ := Dispatch.exists_of_callback taken
    rcases single with ⟨⟨⟩⟩ | single
    obtain ⟨pair, takes⟩ := Verdict.exists_pair? decides single
    exact ⟨v, pair, verdict, takes⟩
  | alternative turn decided _ ih =>
    rw [dispatch, dispatchAll_eq_map, firstOf_of_turn turn decided] at taken
    cases taken
    exact ih (congrArg Prod.fst decided) single
  | item turn _ ih =>
    rw [dispatch] at taken
    obtain ⟨_, _, _, _, items, _⟩ := Dispatch.exists_of_list taken
    obtain ⟨k', found', passed, single'⟩ := Dispatch.itemPasses_of_turn turn items
    exact ih (congrArg Prod.fst passed) (.inr single')

end Rule.Takes

/-! ## Levels -/

namespace Visit

variable {v : Visit} {out l l' : Level} {p taken : Key × Term} {j j' k : Journal}

/-- When the turn of some field comes, its rule replaces all that the level has accepted, this pair with
it, by pairs without it. -/
def Replaces (v : Visit) (taken : Key × Term) : Prop :=
  ∃ p l j r pairs, v.Dispatches p l j ∧ v.schema.ruleFor? j.session.symbols p.1 = some r ∧
    taken ∈ l.accepted ∧ (r.dispatch p.1 p.2 l j).1 = .ok (.replaceAll pairs) ∧ taken ∉ pairs

/-- A step gives a pair up only by replacing all. -/
theorem replaces_of_process (turn : v.Dispatches p l j)
    (pass : l.process v.table p j = (.ok l', j')) (before : taken ∈ l.accepted)
    (after : taken ∉ l'.accepted) : v.Replaces taken := by
  cases hr : v.schema.ruleFor? j.session.symbols p.1 with
  | none =>
    rw [table, Level.process_unruled hr] at pass
    cases pass
    exact (after before).elim
  | some r =>
    rw [table, Level.process_ruled hr] at pass
    obtain ⟨found, j₁, hf, pass⟩ := Run.bind_eq_ok.1 pass
    cases pass
    cases found with
    | accept => exact (after (List.mem_append_left _ before)).elim
    | drop => exact (after before).elim
    | replaceAll pairs => exact ⟨p, l, j, r, pairs, turn, hr, before, congrArg Prod.fst hf, after⟩

/-- In a run that passes each field whose turn comes does, and a pair that is accepted after it is
accepted at the end, unless it is replaced. -/
theorem passes_of_dispatches (ran : v.run = (.ok out, k)) (turn : v.Dispatches p l j)
    (taken : Key × Term) :
    ∃ l' j', l.process v.table p j = (.ok l', j') ∧
      (taken ∈ l'.accepted → taken ∈ out.accepted ∨ v.Replaces taken) := by
  obtain ⟨l₁, j₁, gathered, rest⟩ := Run.bind_eq_ok.1 ran
  obtain ⟨l₂, j₂, filled, demanded⟩ := Run.bind_eq_ok.1 rest
  cases Level.eq_of_demand demanded
  have gathers (h : Run.GivesUp (taken ∈ ·.accepted) (Level.process v.table) v.pairs v.start v.journal) :
      v.Replaces taken := by
    obtain ⟨p, _, _, turn, pass, before, after⟩ := h
    exact replaces_of_process (.pair turn) pass before after
  have fills (h : Run.GivesUp (taken ∈ ·.accepted) (Level.processDefault v.table) v.defaults l₁ j₁) :
      v.Replaces taken := by
    obtain ⟨d, ⟨l, j⟩, ⟨l', j'⟩, turn, pass, before, after⟩ := h
    by_cases has : l.has d.1 = true
    · rw [Run.Passes, Level.processDefault_of_has has] at pass
      cases pass
      exact (after before).elim
    · rw [Run.Passes, Level.processDefault_of_not_has has] at pass
      exact replaces_of_process (.default gathered turn (eq_false_of_ne_true has)) pass before after
  cases turn with
  | pair turn =>
    obtain ⟨s, pass, later⟩ := Run.passes_of_turn (P := (taken ∈ ·.accepted)) turn gathered
    refine ⟨s.1, s.2, pass, fun holds => ?_⟩
    rcases later holds with holds | lost
    · exact (Run.holds_or_givesUp (P := (taken ∈ ·.accepted)) holds filled).imp_right fills
    · exact .inr (gathers lost)
  | default gathered' turn absent =>
    cases gathered.symm.trans gathered'
    obtain ⟨s, pass, later⟩ := Run.passes_of_turn (P := (taken ∈ ·.accepted)) turn filled
    rw [Run.Passes, Level.processDefault_of_not_has (by simp [absent])] at pass
    exact ⟨s.1, s.2, pass, fun holds => (later holds).imp_right fills⟩

/-- The run through the level succeeds and accepts these pairs. -/
def Gives (v : Visit) (accepted : Pairs) : Prop :=
  ∃ l k, v.run = (.ok l, k) ∧ l.accepted = accepted

/-- The verdict on a field counts as if nothing stood around the callback: the level takes what the
verdict says, and a pair that it takes is accepted at the end, unless it is replaced. -/
structure Honours (v : Visit) (accepted : Pairs) (p : Key × Term) (l : Level) (j : Journal)
    (verdict : Verdict) : Prop where
  found : ∃ found j', Dispatch.ofVerdict (l.path.child p.1) p.1 p.2 verdict = .ok found ∧
    l.process v.table p j = (.ok (l.take found), j')
  stays : ∀ taken, verdict.pair? p.1 p.2 = some taken → taken ∈ accepted ∨ v.Replaces taken

variable {accepted : Pairs} {r : Rule} {listed : Bool} {q : Question}

/-- Where the turn of a field comes in a run that passes, its rule finds something, and the level takes
it. -/
theorem exists_found (gives : v.Gives accepted) (turn : v.Dispatches p l j)
    (rule : v.schema.ruleFor? j.session.symbols p.1 = some r) :
    ∃ found k, r.dispatch p.1 p.2 l j = (.ok found, k) ∧ l.process v.table p j = (.ok (l.take found), k) ∧
      ∀ taken, taken ∈ (l.take found).accepted → taken ∈ accepted ∨ v.Replaces taken := by
  obtain ⟨out, k, ran, rfl⟩ := gives
  have passes := passes_of_dispatches ran turn
  obtain ⟨l', j', pass, -⟩ := passes p
  have step := pass
  rw [table, Level.process_ruled rule] at step
  obtain ⟨found, j₁, hf, step⟩ := Run.bind_eq_ok.1 step
  cases step
  refine ⟨found, _, hf, pass, fun taken => ?_⟩
  obtain ⟨l', j', pass', later⟩ := passes taken
  cases pass.symm.trans pass'
  exact later

/-- Outside lists a verdict is honoured. -/
theorem honours_of_outside (gives : v.Gives accepted) (turn : v.Dispatches p l j)
    (rule : v.schema.ruleFor? j.session.symbols p.1 = some r) (takes : r.Takes p.1 p.2 l j listed q)
    (outside : listed = false) :
    ∃ verdict, q.verdict? = some verdict ∧ v.Honours accepted p l j verdict := by
  obtain ⟨found, k, dispatched, pass, stays⟩ := exists_found gives turn rule
  obtain ⟨verdict, answer, decides⟩ := takes.of_outside outside (congrArg Prod.fst dispatched)
  refine ⟨verdict, answer, ⟨found, k, decides, pass⟩, fun taken pair => stays taken ?_⟩
  rw [Verdict.eq_leaf_of_pair? decides pair]
  exact List.mem_append_right _ (List.mem_singleton.2 rfl)

end Visit

namespace Schema

/-- The top level of a call that succeeds gives what the call accepts. -/
theorem gives_of_parse {s : Schema} {options : Options} {input : Term} {j : Journal} {out : Output}
    (ok : (s.parse options input j).1 = .ok out) :
    ∃ pairs, input.pairs? = some pairs ∧ (s.visit options pairs j).Gives out.accepted := by
  cases hp : input.pairs? with
  | none =>
    rw [parse_of_none hp] at ok
    cases ok
  | some pairs =>
    rw [parse_of_pairs hp] at ok
    obtain ⟨l, k, ran, h⟩ := Run.bind_eq_ok.1 (Prod.ext ok rfl)
    cases h
    exact ⟨pairs, rfl, l, _, ran, rfl⟩

/-- **Verdicts are honoured outside lists, and lists lose the key.** Take a call that succeeds; its top
level gives what it accepts. At this and at every other level that gives some pairs, when the turn of a
field comes whose rule takes it by a callback's answer, the callback has come to a verdict. With no list
around the callback the verdict counts as if the callback stood by itself; so the pair of a renaming is
accepted at the level, under the new key, unless a rule replaces it later on. Within a list the verdict
is one that takes the item: a failure or a replacement of the level cannot be part of a success. But a
list takes the same if its callbacks give no keys at all: a renaming counts as a replacement there. -/
theorem verdicts_honoured_outside_lists {s : Schema} {options : Options} {input : Term} {j : Journal}
    {out : Output} (ok : (s.parse options input j).1 = .ok out) :
    (∃ pairs, input.pairs? = some pairs ∧ (s.visit options pairs j).Gives out.accepted) ∧
      (∀ (v : Visit) accepted, v.Gives accepted → ∀ p l j r, v.Dispatches p l j →
        v.schema.ruleFor? j.session.symbols p.1 = some r → ∀ listed q, r.Takes p.1 p.2 l j listed q →
        ∃ verdict, q.verdict? = some verdict ∧
          (listed = false → v.Honours accepted p l j verdict) ∧
          (listed = true → ∃ taken, verdict.pair? q.key q.value = some taken)) ∧
      ∀ d (inner : Rule), (Rule.list d inner.keyless).dispatch = (Rule.list d inner).dispatch := by
  refine ⟨gives_of_parse ok, ?_, Rule.dispatch_list_keyless⟩
  intro v accepted gives p l j r turn rule listed q takes
  cases listed with
  | false =>
    obtain ⟨verdict, answer, honours⟩ := Visit.honours_of_outside gives turn rule takes rfl
    exact ⟨verdict, answer, fun _ => honours, by simp⟩
  | true =>
    obtain ⟨found, k, dispatched, -⟩ := Visit.exists_found gives turn rule
    obtain ⟨verdict, taken, answer, pair⟩ := takes.takes_pair (congrArg Prod.fst dispatched) (.inl rfl)
    exact ⟨verdict, answer, by simp, fun _ => ⟨taken, pair⟩⟩

/-- A callback that takes a field as a host. -/
def hosting : Callback :=
  .value fun value => pure (some (.rename (.text "host") value))

/-- A name that is no number is taken as a host. -/
theorem verdicts_honoured_outside_lists_host :
    let s : Schema := ⟨[(.text "name", .oneOf [.type .integer, .callback hosting])], [], none⟩
    let p : Key × Term := (.text "name", .string "a")
    let v : Visit := s.visit .default [p] default
    ∃ out, (s.parse .default (.map [p]) default).1 = .ok out ∧
      v.Honours out.accepted p v.start default (.rename (.text "host") (.string "a")) ∧
      out.accepted = [(.text "host", .string "a")] := by
  intro s p v
  have parsed : ∃ out, (s.parse .default (.map [p]) default).1 = .ok out ∧
      out.accepted = [(.text "host", .string "a")] := ⟨_, rfl, rfl⟩
  obtain ⟨out, ok, accepted⟩ := parsed
  obtain ⟨⟨pairs, given, gives⟩, honoured, -⟩ := verdicts_honoured_outside_lists ok
  cases given
  have second : Turn (Rule.AlternativePasses p.1 p.2 v.start) [.type .integer, .callback hosting] default
      (.callback hosting) default := .tail ⟨_, rfl, rfl⟩ (.head _ _ _)
  obtain ⟨verdict, answer, honours, -⟩ := honoured v out.accepted gives p v.start default _
    (.pair (.head _ _ _)) rfl false _ (.alternative second rfl (.here _ _ _ _ _))
  cases answer
  exact ⟨out, ok, honours rfl, accepted⟩

/-- Of the items of a list the callback takes each as a host, and no host is accepted. -/
theorem verdicts_lose_key_in_list :
    let s : Schema := ⟨[(.text "names", .list .ordered (.callback hosting))], [], none⟩
    let p : Key × Term := (.text "names", .list [.string "a"])
    let v : Visit := s.visit .default [p] default
    ∃ out, (s.parse .default (.map [p]) default).1 = .ok out ∧
      (∃ q, (Rule.list .ordered (.callback hosting)).Takes p.1 p.2 v.start default true q ∧
        q.verdict? = some (.rename (.text "host") (.string "a"))) ∧
      out.accepted = [p] ∧ ∀ taken ∈ out.accepted, taken.1 ≠ .text "host" := by
  intro s p v
  refine ⟨_, rfl, ⟨_, .item (.head _ _ _) (.here _ _ _ _ _), rfl⟩, rfl, ?_⟩
  exact List.forall_mem_singleton.2 (by decide)

end Schema

end Conform
