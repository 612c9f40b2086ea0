import Conform.Proofs.Level.Account
import Conform.Proofs.Schema.Flattened

/-!
# Keys without a rule

The strays of an input are the keys in it that no rule takes. They are told here from the schema and
the input alone, without a run: a level goes through its own pairs and then through the defaults whose
names are not taken by then, and each pair has itself as a stray if its key has no rule, or else the
strays within its value. A list has those of all its items, whatever becomes of the items afterwards.

A call without choices and callbacks notes the strays of its input, each when it is met. The argument
follows the two phases of a level: after any number of pairs, the unknown paths are the strays of these
pairs, and the names accepted are those of the pairs that have a rule which does not drop them. The
latter is why the defaults that are left can be told without a run.
-/

namespace Conform

/-! ## Strays -/

/-- Whether a pair is taken: its key has a rule, and the rule is not the one that drops the field. -/
def Schema.takes (symbols : SymbolTable) (s : Schema) (pair : Key × Term) : Bool :=
  match s.ruleFor? symbols pair.1 with
  | none | some .ignore => false
  | some _ => true

/-- The pairs that a level goes through: its own, and then the defaults whose names are not among those
of its own that are taken. `fill` tells whether the defaults are applied. -/
def Schema.processed (symbols : SymbolTable) (s : Schema) (fill : Bool) (pairs : Pairs) : Pairs :=
  pairs ++ if fill then absentFrom (pairs.filter (s.takes symbols)) s.defaults else []

/-- The strays of pairs, given those within the values of each field. -/
def straysBy (symbols : SymbolTable) (table : List (Key × (Path → Term → List Path))) (path : Path)
    (pairs : Pairs) : List Path :=
  pairs.flatMap fun p =>
    (valueFor? symbols table p.1).elim [path.child p.1] fun within => within (path.child p.1) p.2

mutual

/-- The paths of the strays within a value of a rule. -/
def Rule.strays (symbols : SymbolTable) : Rule → Path → Term → List Path
  | .list _ inner => fun path t => (ListRule.elements t).flatMap (inner.strays symbols path)
  | .nested s => fun path t =>
    t.pairs?.elim [] fun pairs => s.strays symbols path (!pairs.isEmpty) pairs
  | .type _ | .oneOf _ | .callback _ | .ignore => fun _ _ => []

/-- The paths of the strays of a level and of what is within it, in the order in which its pairs are
gone through. -/
def Schema.strays (symbols : SymbolTable) : Schema → Path → Bool → Pairs → List Path
  | ⟨fields, defaults, mandatory⟩ => fun path fill pairs =>
    straysBy symbols (Rule.straysOfFields symbols fields) path
      (Schema.processed symbols ⟨fields, defaults, mandatory⟩ fill pairs)

def Rule.straysOfFields (symbols : SymbolTable) :
    List (Key × Rule) → List (Key × (Path → Term → List Path))
  | [] => []
  | (k, r) :: fs => (k, r.strays symbols) :: Rule.straysOfFields symbols fs

end

variable {symbols : SymbolTable}

theorem Rule.straysOfFields_eq_map (fields : List (Key × Rule)) :
    straysOfFields symbols fields = fields.map fun f => (f.1, f.2.strays symbols) := by
  induction fields with
  | nil => rw [straysOfFields, List.map_nil]
  | cons f fs ih => rw [straysOfFields, ih, List.map_cons]

namespace Schema

/-- The strays that a pair brings into a level: its own key, or those within its value. -/
def straysOf (symbols : SymbolTable) (s : Schema) (path : Path) (pair : Key × Term) : List Path :=
  (s.ruleFor? symbols pair.1).elim [path.child pair.1] fun r =>
    r.strays symbols (path.child pair.1) pair.2

/-- The strays of a level are those of the pairs that it goes through. -/
theorem strays_eq_flatMap (s : Schema) (path : Path) (fill : Bool) (pairs : Pairs) :
    s.strays symbols path fill pairs
      = (s.processed symbols fill pairs).flatMap (s.straysOf symbols path) := by
  obtain ⟨fields, defaults, mandatory⟩ := s
  simp only [strays, straysBy, Rule.straysOfFields_eq_map]
  apply List.flatMap_congr
  intro p _
  rw [valueFor?_map, straysOf, ruleFor?]
  cases valueFor? symbols fields p.1 <;> rfl

end Schema

/-! ## What a level has met -/

/-- The state of a level that has gone through these pairs: what it has noted, and the names that it
has accepted. -/
structure Level.HasMet (symbols : SymbolTable) (s : Schema) (path : Path) (pairs : Pairs) (l : Level) :
    Prop where
  place : l.path = path
  unknown : l.unknown = pairs.flatMap (s.straysOf symbols path)
  has : ∀ key, l.has key = named (pairs.filter (s.takes symbols)) key

/-- A field that its rule drops, or one that is taken under its own key, with the strays in it. -/
inductive Rule.Finds (symbols : SymbolTable) (key : Key) (path : Path) (value : Term) :
    Rule → Found → Prop where
  | drop : Finds symbols key path value .ignore .drop
  | accept {r : Rule} {taken : Term} {flattened : List (Path × Term)} : r ≠ .ignore →
    Finds symbols key path value r (.accept key taken flattened (r.strays symbols path value))

/-- A rule finds the strays within a value, whenever these symbols exist. -/
def Rule.TellsStrays (symbols : SymbolTable) (r : Rule) : Prop :=
  ∀ key value l j found, j.session.symbols = symbols → (r.dispatch key value l j).1 = .ok found →
    r.Finds symbols key (l.path.child key) value found

theorem named_singleton (p : Key × Term) (key : Key) : named [p] key = p.1.sameName key := by
  simp [named]

namespace Level

variable {s : Schema} {path : Path} {pairs : Pairs} {l l' : Level} {j j' : Journal}

theorem hasMet_start (symbols : SymbolTable) (s : Schema) (path : Path) (options : Options) :
    HasMet symbols s path [] (.start path options) :=
  ⟨rfl, rfl, fun _ => rfl⟩

/-- Whether a name is accepted after one more pair. -/
theorem has_append (l : Level) (p : Key × Term) (flattened : List (Path × Term))
    (unknown : List Path) (key : Key) :
    (l.take (.accept p.1 p.2 flattened unknown)).has key = (l.has key || p.1.sameName key) := by
  simp [take, has]

/-- The names taken by one more pair. -/
theorem named_filter_append (taken : Key × Term → Bool) (pairs : Pairs) (p : Key × Term) (key : Key) :
    named ((pairs ++ [p]).filter taken) key
      = (named (pairs.filter taken) key || (taken p && p.1.sameName key)) := by
  rw [List.filter_append, named_append]
  by_cases hp : taken p = true
  · rw [List.filter_cons_of_pos hp, List.filter_nil, named_singleton, hp, Bool.true_and]
  · rw [List.filter_cons_of_neg hp, Bool.eq_false_iff.2 hp]
    rfl

/-- One step: the pair brings its strays, and its name if it is taken. -/
theorem hasMet_process (tells : ∀ f ∈ s.fields, f.2.TellsStrays symbols)
    (met : HasMet symbols s path pairs l) (known : j.session.symbols = symbols) {p : Key × Term}
    (h : l.process (Rule.dispatchFields s.fields) p j = (.ok l', j')) :
    HasMet symbols s path (pairs ++ [p]) l' := by
  have names := named_filter_append (s.takes symbols) pairs p
  have strays : (pairs ++ [p]).flatMap (s.straysOf symbols path)
      = l.unknown ++ s.straysOf symbols path p := by
    rw [List.flatMap_append, met.unknown, List.flatMap_singleton]
  cases hr : s.ruleFor? symbols p.1 with
  | none =>
    have untaken : s.takes symbols p = false := by rw [Schema.takes, hr]
    have itself : s.straysOf symbols path p = [path.child p.1] := by rw [Schema.straysOf, hr]; rfl
    rw [process_unruled (known ▸ hr)] at h
    cases h
    refine ⟨met.place, ?_, ?_⟩
    · rw [strays, itself, met.place]
    · intro key
      rw [names, untaken, Bool.false_and, Bool.or_false]
      exact met.has key
  | some r =>
    obtain ⟨k, -, mem⟩ := Schema.mem_of_ruleFor? hr
    have within : s.straysOf symbols path p = r.strays symbols (path.child p.1) p.2 := by
      rw [Schema.straysOf, hr]; rfl
    rw [process_ruled (known ▸ hr)] at h
    obtain ⟨found, j₁, hd, h⟩ := Run.bind_eq_ok.1 h
    cases h
    have finds := tells (k, r) mem p.1 p.2 l j found known (congrArg Prod.fst hd)
    rw [met.place] at finds
    cases finds with
    | drop =>
      have untaken : s.takes symbols p = false := by rw [Schema.takes, hr]
      have nothing : s.straysOf symbols path p = [] := by rw [within, Rule.strays]
      refine ⟨met.place, ?_, ?_⟩
      · rw [strays, nothing, List.append_nil]
        rfl
      · intro key
        rw [names, untaken, Bool.false_and, Bool.or_false]
        exact met.has key
    | @accept r value flattened kept =>
      have taken : s.takes symbols p = true := by
        cases r with
        | ignore => exact absurd rfl kept
        | type | list | oneOf | nested | callback => rw [Schema.takes, hr]
      refine ⟨met.place, ?_, ?_⟩
      · rw [strays, within]
        rfl
      · intro key
        rw [names, taken, Bool.true_and, ← met.has key]
        exact has_append l (p.1, value) _ _ key

/-- The run through the pairs, one after another. -/
theorem hasMet_gather (tells : ∀ f ∈ s.fields, f.2.TellsStrays symbols)
    (steady : SteadyTable (Rule.dispatchFields s.fields)) (met : HasMet symbols s path pairs l)
    (known : j.session.symbols = symbols) {ps : Pairs}
    (h : ps.foldlM (process (Rule.dispatchFields s.fields)) l j = (.ok l', j')) :
    HasMet symbols s path (pairs ++ ps) l' ∧ j'.session.symbols = symbols := by
  induction ps generalizing pairs l j with
  | nil =>
    cases h
    rw [List.append_nil]
    exact ⟨met, known⟩
  | cons p ps ih =>
    rw [List.foldlM_cons] at h
    obtain ⟨l₁, j₁, first, rest⟩ := Run.bind_eq_ok.1 h
    have kept := (quiet_process steady l p).session j
    rw [first] at kept
    rw [List.append_cons]
    exact ih (hasMet_process tells met known first) (kept ▸ known) rest

/-- A default that is dispatched takes no other default's place: their names are distinct. -/
theorem absentFrom_append {taken : Key × Term → Bool} {d : Key × Term} {ds : Pairs}
    (distinct : DistinctNames (d :: ds)) (pairs : Pairs) :
    absentFrom ((pairs ++ [d]).filter taken) ds = absentFrom (pairs.filter taken) ds := by
  have fresh := (List.nodup_cons.1 distinct).1
  apply List.filter_congr
  intro e he
  have other : d.1.sameName e.1 = false := by
    apply Bool.eq_false_iff.2
    intro same
    exact fresh (List.mem_map.2 ⟨e, he, (beq_iff_eq.1 same).symm⟩)
  rw [named_filter_append, other, Bool.and_false, Bool.or_false]

/-- The run through the defaults: it dispatches those that are absent when it begins. -/
theorem hasMet_fill (tells : ∀ f ∈ s.fields, f.2.TellsStrays symbols)
    (steady : SteadyTable (Rule.dispatchFields s.fields)) (met : HasMet symbols s path pairs l)
    (known : j.session.symbols = symbols) {defaults : Pairs} (distinct : DistinctNames defaults)
    (h : defaults.foldlM (processDefault (Rule.dispatchFields s.fields)) l j = (.ok l', j')) :
    HasMet symbols s path (pairs ++ absentFrom (pairs.filter (s.takes symbols)) defaults) l' := by
  induction defaults generalizing pairs l j with
  | nil =>
    cases h
    rw [absentFrom, List.filter_nil, List.append_nil]
    exact met
  | cons d ds ih =>
    have rest := (List.nodup_cons.1 distinct).2
    rw [List.foldlM_cons] at h
    by_cases has : l.has d.1 = true
    · have skip : absentFrom (pairs.filter (s.takes symbols)) (d :: ds)
          = absentFrom (pairs.filter (s.takes symbols)) ds :=
        List.filter_cons_of_neg (by simp [← met.has, has])
      rw [processDefault_of_has has] at h
      rw [skip]
      exact ih met known rest h
    · have left : absentFrom (pairs.filter (s.takes symbols)) (d :: ds)
          = d :: absentFrom (pairs.filter (s.takes symbols)) ds :=
        List.filter_cons_of_pos (by simp [← met.has, has])
      rw [processDefault_of_not_has has] at h
      obtain ⟨l₁, j₁, first, later⟩ := Run.bind_eq_ok.1 h
      have kept := (quiet_process steady l d).session j
      rw [first] at kept
      -- A default that comes in takes its own name only, so the defaults after it are absent as before.
      have met₁ := ih (hasMet_process tells met known first) (kept ▸ known) rest later
      rw [absentFrom_append distinct] at met₁
      rw [left, List.append_cons]
      exact met₁

/-- What a run has met when it ends: the strays of its pairs and of the defaults that were due. -/
theorem hasMet_run (tells : ∀ f ∈ s.fields, f.2.TellsStrays symbols)
    (steady : SteadyTable (Rule.dispatchFields s.fields)) (distinct : DistinctNames s.defaults)
    (known : j.session.symbols = symbols) {options : Options} {fill : Bool} {pairs : Pairs}
    (h : run (Rule.dispatchFields s.fields) s.defaults s.mandatoryKeys fill pairs
      (.start path options) j = (.ok l', j')) :
    HasMet symbols s path (s.processed symbols fill pairs) l' := by
  obtain ⟨l₁, j₁, gathered, h⟩ := Run.bind_eq_ok.1 h
  obtain ⟨l₂, j₂, filled, demanded⟩ := Run.bind_eq_ok.1 h
  obtain rfl := eq_of_demand demanded
  obtain ⟨met, known₁⟩ := hasMet_gather tells steady (hasMet_start symbols s path options) known gathered
  rw [List.nil_append] at met
  rw [Schema.processed]
  cases fill with
  | false =>
    cases filled
    rw [if_neg Bool.false_ne_true, List.append_nil]
    exact met
  | true =>
    rw [if_pos rfl] at filled ⊢
    exact hasMet_fill tells steady met known₁ distinct filled

end Level

/-! ## Each kind of rule -/

/-- The items of a list have the strays of each of them, in their order. -/
theorem Dispatch.unknown_of_items {r : Rule} (tells : r.TellsStrays symbols)
    (steady : r.dispatch.Steady) {key : Key} {l : Level} {path : Path} {ts values : List Term}
    {flattened : List (Path × Term)} {unknown : List Path} {j j' : Journal}
    (known : j.session.symbols = symbols)
    (h : items path (fun t => r.dispatch key t l) ts j = (.ok (values, flattened, unknown), j')) :
    unknown = ts.flatMap (r.strays symbols (l.path.child key)) := by
  induction ts generalizing values flattened unknown j with
  | nil =>
    cases h
    rfl
  | cons t ts ih =>
    obtain ⟨found, j₁, first, h⟩ := Run.bind_eq_ok.1 h
    have kept := (steady.quiet key t l).session j
    replace first : r.dispatch key t l j = (.ok found, j₁) := first
    rw [first] at kept
    have finds := tells key t l j found known (congrArg Prod.fst first)
    rw [List.flatMap_cons]
    cases finds with
    | drop =>
      have nothing : Rule.ignore.strays symbols (l.path.child key) t = [] := by rw [Rule.strays]
      rw [nothing, List.nil_append]
      exact ih (kept ▸ known) h
    | accept =>
      obtain ⟨⟨values', f', n'⟩, j₂, others, h⟩ := Run.bind_eq_ok.1 h
      cases h
      rw [ih (kept ▸ known) others]

/-- Every rule that is neither a choice nor a callback finds the strays within a value. -/
theorem Rule.tellsStrays (symbols : SymbolTable) {r : Rule} (named : r.Every WellNamed)
    (direct : r.Every Direct) : r.TellsStrays symbols := by
  induction r using Rule.induct with
  | type tag =>
    intro key value l j found _ h
    rw [dispatch] at h
    obtain ⟨t, -, rfl⟩ := Dispatch.exists_of_type h
    have nothing : (Rule.type tag).strays symbols (l.path.child key) value = [] := by rw [strays]
    rw [Dispatch.leaf, ← nothing]
    exact .accept (by simp)
  | list d inner ih =>
    intro key value l j found known h
    have steady := steady_dispatch (direct.inner.mono fun _ h => h.noCallback.plain)
    rw [dispatch] at h
    obtain ⟨values, flattened, unknown, j', hitems, rfl⟩ := Dispatch.exists_of_list h
    have within : unknown = (Rule.list d inner).strays symbols (l.path.child key) value := by
      rw [Dispatch.unknown_of_items (ih named.inner direct.inner) steady known hitems, strays]
    rw [within]
    exact .accept (by simp)
  | oneOf rules => exact (direct.here : Direct (.oneOf rules)).elim
  | nested s ih =>
    intro key value l j found known h
    have steady := Schema.steadyTable (direct.mono fun _ h => h.noCallback.plain)
    have tells : ∀ f ∈ s.fields, f.2.TellsStrays symbols :=
      fun f hf => ih f hf (named.field hf) (direct.field hf)
    rw [dispatch, s.dispatch_eq] at h
    cases hp : value.pairs? with
    | none =>
      rw [Dispatch.nested_of_none hp] at h
      cases h
    | some pairs =>
      rw [Dispatch.nested_of_pairs hp] at h
      obtain ⟨inner, j₁, run, h⟩ := Run.bind_eq_ok.1 (Prod.ext h rfl)
      cases h
      have met := Level.hasMet_run tells steady (named.here : s.Distinct).defaults known run
      have within : inner.unknown = (Rule.nested s).strays symbols (l.path.child key) value := by
        simp only [strays, hp, Option.elim_some]
        rw [met.unknown, s.strays_eq_flatMap]
      rw [within]
      exact .accept (by simp)
  | callback c => exact (direct.here : Direct (.callback c)).elim
  | ignore =>
    intro key value l j found _ h
    rw [dispatch] at h
    cases h
    exact .drop

namespace Schema

/-- **Unknown keys are reported completely, once and in order.** Under a schema that can be built,
without choices and callbacks, the unknown paths of an output are the strays of the input: at each level
those of its pairs in their order, then those of the defaults that are applied, in the order of their
declaration, where a pair whose key has no rule counts with its own path, and any other pair with the
strays within its value. All items of a list count, in the order of the input, also those that are
sorted or left out afterwards. -/
theorem unknown_tells_strays {s : Schema} (built : s.Built)
    (direct : (Rule.nested s).Every Rule.Direct) {options : Options} {input : Term} {j : Journal}
    {out : Output} (h : (s.parse options input j).1 = .ok out) :
    ∃ pairs, input.pairs? = some pairs ∧
      out.unknown = s.strays j.session.symbols ⟨options.path⟩ true pairs := by
  have named := built.wellNamed
  have steady := steadyTable (direct.mono fun _ h => h.noCallback.plain)
  cases hp : input.pairs? with
  | none =>
    rw [parse_of_none hp] at h
    cases h
  | some pairs =>
    rw [parse_of_pairs hp] at h
    obtain ⟨l, j₁, run, h⟩ := Run.bind_eq_ok.1 (Prod.ext h rfl)
    cases h
    have tells : ∀ f ∈ s.fields, f.2.TellsStrays j.session.symbols := fun f hf =>
      Rule.tellsStrays _ (named.field hf) (direct.field hf)
    have met := Level.hasMet_run tells steady named.distinct.defaults rfl run
    refine ⟨pairs, rfl, ?_⟩
    rw [s.strays_eq_flatMap]
    exact met.unknown

/-- A farm: backends, sorted and each of them once, and a main one, whose default has a key too many. -/
def farm : Schema :=
  ⟨[(.text "members", .list .unique (.nested backend)), (.text "main", .nested backend)],
    [(.text "main", .map [(.text "host", .string "z"), (.text "rank", .integer 1)])], none⟩

theorem built_farm : farm.Built := by
  have members := Built.empty.field (.text "members") (r := .list .unique (.nested backend))
    (by simpa [Rule.Built] using every_built_backend)
  have main := members.field (.text "main") every_built_backend
  exact main.withDefault (.text "main") _

/-- The same misspelled key in two backends that are one in the end, then a key of the farm itself, and
last the one in the default. -/
theorem unknown_tells_strays_farm :
    let b : Term := .map [(.text "host", .string "b"), (.text "prot", .integer 81)]
    let given : Pairs := [(.text "members", .list [b, .map [(.text "host", .string "a")], b]),
      (.text "size", .integer 3)]
    farm.Built ∧ (Rule.nested farm).Every Rule.Direct ∧
      ∃ out, (farm.parse .default (.map given) default).1 = .ok out ∧
        out.unknown = farm.strays .empty ⟨""⟩ true given ∧
        out.unknown = [⟨"members.prot"⟩, ⟨"members.prot"⟩, ⟨"size"⟩, ⟨"main.rank"⟩] := by
  intro b given
  have direct : (Rule.nested farm).Every Rule.Direct := by
    simp [farm, backend, Rule.Direct]
  have parsed : ∃ out, (farm.parse .default (.map given) default).1 = .ok out ∧
      out.unknown = [⟨"members.prot"⟩, ⟨"members.prot"⟩, ⟨"size"⟩, ⟨"main.rank"⟩] := ⟨_, rfl, rfl⟩
  obtain ⟨out, ok, unknown⟩ := parsed
  obtain ⟨pairs, same, told⟩ := unknown_tells_strays built_farm direct ok
  cases same
  exact ⟨built_farm, direct, out, ok, told, unknown⟩

end Schema

end Conform
