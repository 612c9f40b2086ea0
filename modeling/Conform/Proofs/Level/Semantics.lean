import Conform.Proofs.Level.Account

/-!
# The meaning of a schema, level by level

With plain callbacks every level of a call, the top and each nested one, comes to what its account
says: the pairs dispatched alone, then the defaults that are left, then the mandatory keys. A nested
level that arrives empty has no defaults; the top has them also when it is empty.
-/

namespace Conform

namespace Schema

/-- What a pair contributes to a level of this schema when it is dispatched alone. A key without a
rule contributes nothing. -/
def alone (s : Schema) (l : Level) (j : Journal) (pair : Key × Term) : Except ParseError Pairs :=
  match s.ruleFor? j.session.symbols pair.1 with
  | none => .ok []
  | some rule => (rule.dispatch pair.1 pair.2 l j).1.map Found.pairs

variable {s : Schema}

theorem alone_dispatchFields (l : Level) (j : Journal) :
    Level.alone (Rule.dispatchFields s.fields) l j = s.alone l j := by
  funext pair
  rw [Level.alone, alone, Rule.valueFor?_dispatchFields]
  cases s.ruleFor? j.session.symbols pair.1 <;> rfl

theorem keepsKeys_alone (plain : (Rule.nested s).Every Rule.Plain) (l : Level) (j : Journal) :
    Account.KeepsKeys (s.alone l j) := by
  intro p new h q hq
  unfold alone at h
  cases hr : s.ruleFor? j.session.symbols p.1 with
  | none => rw [hr] at h; cases h; cases hq
  | some rule =>
    rw [hr] at h
    dsimp only at h
    obtain ⟨k, -, mem⟩ := mem_of_ruleFor? hr
    have keeps := (Rule.steady_dispatch (plain.field mem)).keeps p.1 p.2 l j
    rcases hd : (rule.dispatch p.1 p.2 l j).1 with e | found <;> rw [hd] at h keeps <;> cases h
    cases keeps found rfl with
    | accept value flattened unknown =>
      obtain rfl : q = (p.1, value) := List.mem_singleton.1 hq
      exact ⟨rfl, rfl⟩
    | drop => cases hq

/-- A run through a level of plain callbacks is settled on pairs. -/
theorem run_follows (plain : (Rule.nested s).Every Rule.Plain) (applied : Bool) (pairs : Pairs)
    (path : Path) (options : Options) (j : Journal) :
    Level.Follows (.start path options) j
      (Account.settle (s.alone (.start path options) j) path (if applied then s.defaults else [])
        s.mandatoryKeys pairs)
      (Level.run (Rule.dispatchFields s.fields) s.defaults s.mandatoryKeys applied pairs
        (.start path options) j) := by
  rw [← alone_dispatchFields]
  exact Level.run_follows (steadyTable plain) _ _ _ _ _ rfl j

/-- What a parse accepts, or how it fails, is `Account.settle` of what each pair gives alone: in a
schema of plain rules no pair sees the others. -/
theorem parse_accepted (plain : (Rule.nested s).Every Rule.Plain) {input : Term} {pairs : Pairs}
    (h : input.pairs? = some pairs) (options : Options) (j : Journal) :
    (s.parse options input j).1.map Output.accepted =
      Account.settle (s.alone (.start ⟨options.path⟩ options) j) ⟨options.path⟩ s.defaults
        s.mandatoryKeys pairs := by
  have follows := run_follows plain true pairs ⟨options.path⟩ options j
  rw [parse_of_pairs h, Run.bind_apply]
  refine Eq.trans ?_ follows.result
  rcases Level.run _ _ _ _ _ _ j with ⟨e | l, j'⟩ <;> rfl

/-- What a call accepts is what the pairs of its input are settled on. -/
theorem settle_of_parse (plain : (Rule.nested s).Every Rule.Plain) {options : Options} {input : Term}
    {j : Journal} {out : Output} (h : (s.parse options input j).1 = .ok out) :
    ∃ pairs, input.pairs? = some pairs ∧
      Account.settle (s.alone (.start ⟨options.path⟩ options) j) ⟨options.path⟩ s.defaults
        s.mandatoryKeys pairs = .ok out.accepted := by
  cases hp : input.pairs? with
  | none =>
    rw [parse_of_none hp] at h
    cases h
  | some pairs =>
    refine ⟨pairs, rfl, ?_⟩
    rw [← parse_accepted plain hp, h]
    rfl

/-- A call whose pairs are settled succeeds. -/
theorem parse_of_settle (plain : (Rule.nested s).Every Rule.Plain) {options : Options} {input : Term}
    {pairs accepted : Pairs} (hp : input.pairs? = some pairs) {j : Journal}
    (h : Account.settle (s.alone (.start ⟨options.path⟩ options) j) ⟨options.path⟩ s.defaults
      s.mandatoryKeys pairs = .ok accepted) :
    ∃ out, (s.parse options input j).1 = .ok out ∧ out.accepted = accepted := by
  rw [← parse_accepted plain hp] at h
  cases hr : (s.parse options input j).1 with
  | error e => rw [hr] at h; cases h
  | ok out =>
    rw [hr] at h
    exact ⟨out, rfl, Except.ok.inj h⟩

/-- The accepted pairs of a nested level are the map that its field is accepted with. -/
theorem dispatch_accepted (plain : (Rule.nested s).Every Rule.Plain) {value : Term} {pairs : Pairs}
    (h : value.pairs? = some pairs) (key : Key) (l : Level) (j : Journal) :
    (∀ e, ((Rule.nested s).dispatch key value l j).1 = .error e ↔
      Account.settle (s.alone (.start (l.path.child key) l.options) j) (l.path.child key)
        (if pairs.isEmpty then [] else s.defaults) s.mandatoryKeys pairs = .error e) ∧
    ∀ taken, (∃ flattened unknown, ((Rule.nested s).dispatch key value l j).1
        = .ok (.accept key (.map taken) flattened unknown)) ↔
      Account.settle (s.alone (.start (l.path.child key) l.options) j) (l.path.child key)
        (if pairs.isEmpty then [] else s.defaults) s.mandatoryKeys pairs = .ok taken := by
  have follows := run_follows plain (!pairs.isEmpty) pairs (l.path.child key) l.options j
  have fills : (if (!pairs.isEmpty) = true then s.defaults else [])
      = if pairs.isEmpty then [] else s.defaults := by
    cases pairs.isEmpty <;> rfl
  rw [fills] at follows
  rw [Rule.dispatch, s.dispatch_eq, Dispatch.nested_of_pairs h, Run.bind_apply, ← follows.result]
  rcases Level.run _ _ _ _ _ _ j with ⟨e | inner, j'⟩
  · constructor
    · intro e'
      constructor <;> intro hr <;> cases hr <;> rfl
    · intro taken
      constructor
      · rintro ⟨_, _, hr⟩; cases hr
      · intro hr; cases hr
  · constructor
    · intro e'
      constructor <;> intro hr <;> cases hr
    · intro taken
      constructor
      · rintro ⟨_, _, hr⟩; cases hr; rfl
      · intro hr; cases hr; exact ⟨_, _, rfl⟩

/-- **Level semantics.** Under a schema that can be built and whose callbacks are plain, a call comes
to the account of its top level; on empty input that is what the defaults contribute. Every nested
level comes to its own account, without defaults if it arrives empty. -/
theorem account_of_every_level {s : Schema} (built : s.Built)
    (plain : (Rule.nested s).Every Rule.Plain) (options : Options) {input : Term} {pairs : Pairs}
    (hp : input.pairs? = some pairs) (j : Journal) :
    Account (s.alone (.start ⟨options.path⟩ options) j) ⟨options.path⟩ s.defaults s.mandatoryKeys
      pairs ((s.parse options input j).1.map Output.accepted) ∧
    (pairs = [] → ∀ out, (s.parse options input j).1 = .ok out →
      out.accepted = contributions (s.alone (.start ⟨options.path⟩ options) j) s.defaults) ∧
    ∀ s' : Schema, Rule.Within (.nested s') (.nested s) →
      ∀ key value inner, value.pairs? = some inner → ∀ (l : Level) (j' : Journal),
        ∃ r, Account (s'.alone (.start (l.path.child key) l.options) j') (l.path.child key)
            (if inner.isEmpty then [] else s'.defaults) s'.mandatoryKeys inner r ∧
          (∀ e, ((Rule.nested s').dispatch key value l j').1 = .error e ↔ r = .error e) ∧
          ∀ taken, (∃ flattened unknown, ((Rule.nested s').dispatch key value l j').1
            = .ok (.accept key (.map taken) flattened unknown)) ↔ r = .ok taken := by
  have top : Account (s.alone (.start ⟨options.path⟩ options) j) ⟨options.path⟩ s.defaults
      s.mandatoryKeys pairs ((s.parse options input j).1.map Output.accepted) := by
    rw [parse_accepted plain hp]
    exact .of_settle (keepsKeys_alone plain _ _) built.wellNamed.distinct.defaults
  refine ⟨top, ?_, fun s' within key value inner hv l j' => ?_⟩
  · rintro rfl out hout
    exact (top.taken out.accepted (by rw [hout]; rfl)).trans (bothParts_nil _ _)
  · have plain' := plain.within within
    have distinct : DistinctNames (if inner.isEmpty then [] else s'.defaults) := by
      split
      · exact List.nodup_nil
      · exact (built.wellNamed.within within).here.defaults
    exact ⟨_, .of_settle (keepsKeys_alone plain' _ _) distinct, dispatch_accepted plain' hv key l j'⟩

/-- A backend: its host must be given, its port has a default. -/
def backend : Schema :=
  ⟨[(.text "host", .type .string), (.text "port", .type .port)], [(.text "port", .integer 80)],
    some [.text "host"]⟩

/-- A service: a backend and a name, for which a callback is asked. -/
def service : Schema :=
  ⟨[(.text "backend", .nested backend),
    (.text "name", .callback (.keyed fun _ value => pure (some (.replace (.tuple [value])))))],
    [(.text "name", .string "main")], none⟩

theorem built_backend : backend.Built := by
  have host := Built.empty.field (.text "host") (r := .type .string) (by simp [Rule.Built])
  have port := host.field (.text "port") (r := .type .port) (by simp [Rule.Built])
  exact (port.withDefault (.text "port") (.integer 80)).withMandatory [.text "host"]

theorem every_built_backend : (Rule.nested backend).Every Rule.Built :=
  Rule.every_nested_iff.2 ⟨built_backend, by simp [backend, Rule.Built]⟩

theorem built_service : service.Built := by
  have inner := Built.empty.field (.text "backend") every_built_backend
  have name := inner.field (.text "name")
    (r := .callback (.keyed fun _ value => pure (some (.replace (.tuple [value])))))
    (by simp [Rule.Built])
  exact name.withDefault (.text "name") (.string "main")

/-- A service with a host alone gets the two defaults, one at each level. -/
theorem account_of_service :
    let given : Pairs := [(.text "backend", .map [(.text "host", .string "web")])]
    let taken : Pairs := [(.text "backend", .map [(.text "host", .string "web"),
      (.text "port", .integer 80)]), (.text "name", .tuple [.string "main"])]
    service.Built ∧ (Rule.nested service).Every Rule.Plain ∧
      (service.parse .default (.map given) default).1.map Output.accepted = .ok taken ∧
      taken = bothParts (service.alone (.start ⟨""⟩ .default) default) service.defaults given := by
  intro given taken
  have plain : (Rule.nested service).Every Rule.Plain := by
    simp only [service, backend, Rule.every_nested_iff]
    simp [Rule.Plain, Callback.Plain]
    exact ⟨_, fun _ _ => rfl, fun _ value v h => by cases h; trivial⟩
  have pairs : (Term.map given).pairs? = some given := rfl
  exact ⟨built_service, plain, rfl,
    (account_of_every_level built_service plain .default pairs default).1.taken taken rfl⟩

end Schema

end Conform
