import Conform.Proofs.Level.Steady
import Conform.Proofs.Run.Agree

/-!
# Two levels side by side

Two runs through a level, on pairs that correspond to each other and from states that do, stay in step
if their steps do. Apart from its steps a run looks at the names that have been accepted, for its
defaults and its mandatory keys, and at the path of the level. The items of two lists are in step if
they are so one by one.

`agree_process` is the step, `Tandem.run` the run, and `agree_items` the same for lists.
-/

namespace Conform

variable {R : Session → Session → Prop} {E : ParseError → ParseError → Prop}
  {A : Key × Term → Key × Term → Prop} {L : Level → Level → Prop}
  {table table' : List (Key × Dispatch)}

namespace Level

/-! ## Steps -/

/-- One step on each side: either no side has a dispatcher, or what the two dispatchers find is taken
in. -/
theorem inStep_process {l l' : Level} {p q : Key × Term}
    (noted : L { l with unknown := l.unknown ++ [l.path.child p.1] }
      { l' with unknown := l'.unknown ++ [l'.path.child q.1] })
    (found : ∀ s s', R s s' → Option.Rel (fun d d' : Dispatch => Run.InStep R E
      (fun found found' => L (l.take found) (l'.take found')) (d p.1 p.2 l) (d' q.1 q.2 l'))
      (valueFor? s.symbols table p.1) (valueFor? s'.symbols table' q.1)) :
    Run.InStep R E L (l.process table p) (l'.process table' q) := by
  intro j j' hj
  have found := found _ _ hj
  cases hd : valueFor? j.session.symbols table p.1 with
  | none =>
    rw [hd] at found
    cases hd' : valueFor? j'.session.symbols table' q.1 <;> rw [hd'] at found <;> cases found
    rw [process_of_none hd, process_of_none hd']
    refine ⟨?_, .ok noted⟩
    rwa [(quiet_note l p.1).session, (quiet_note l' q.1).session]
  | some d =>
    rw [hd] at found
    cases hd' : valueFor? j'.session.symbols table' q.1 <;> rw [hd'] at found <;> cases found
    rename_i d' found
    rw [process_of_some hd, process_of_some hd']
    exact (found j j' hj).bind fun _ _ same => .pure same

/-- How the steps of two levels correspond: their states by `L`, their pairs by `A`, their errors by
`E`, what has been created by `R`. -/
structure SideBySide (R : Session → Session → Prop) (E : ParseError → ParseError → Prop)
    (A : Key × Term → Key × Term → Prop) (L : Level → Level → Prop)
    (table table' : List (Key × Dispatch)) (defaults : Pairs) (mandatory : List Key) : Prop where
  step : ∀ l l' p q, L l l' → A p q → Run.InStep R E L (l.process table p) (l'.process table' q)
  has : ∀ l l' key, L l l' → l.has key = l'.has key
  default : ∀ d ∈ defaults, A d d
  missing : ∀ l l', L l l' → ∀ key ∈ mandatory,
    E (.missing (l.path.child key)) (.missing (l'.path.child key))

namespace SideBySide

variable {defaults : Pairs} {mandatory : List Key} {l l' : Level}

/-- A default is the same on both sides; whether it is dispatched depends on the names accepted. -/
theorem processDefault (sides : SideBySide R E A L table table' defaults mandatory) (h : L l l')
    {d : Key × Term} (hd : d ∈ defaults) :
    Run.InStep R E L (l.processDefault table d) (l'.processDefault table' d) := by
  have same := sides.has l l' d.1 h
  by_cases has : l.has d.1 = true
  · rw [processDefault_of_has has, processDefault_of_has (same ▸ has)]
    exact .pure h
  · rw [processDefault_of_not_has has, processDefault_of_not_has (same ▸ has)]
    exact sides.step l l' d d h (sides.default d hd)

/-- Two levels of one relation ask for the same mandatory names with the same outcome. -/
theorem demand (sides : SideBySide R E A L table table' defaults mandatory) (h : L l l') :
    Run.InStep R E L (l.demand mandatory) (l'.demand mandatory) := by
  have same : (fun k => !l.has k) = fun k => !l'.has k :=
    funext fun k => congrArg not (sides.has l l' k h)
  unfold Level.demand
  rw [same]
  cases hk : mandatory.find? fun k => !l'.has k with
  | some k => exact .throw (sides.missing l l' h k (List.mem_of_find?_eq_some hk))
  | none => exact .pure h

/-- What comes after the pairs: the defaults, and the question which mandatory key is missing. -/
theorem finish (sides : SideBySide R E A L table table' defaults mandatory) (fill : Bool) (h : L l l') :
    Run.InStep R E L (l.finish table defaults mandatory fill)
      (l'.finish table' defaults mandatory fill) := by
  have same : List.Forall₂ (fun d d' => d = d' ∧ d ∈ defaults) (if fill then defaults else [])
      (if fill then defaults else []) := by
    rw [List.forall₂_same]
    intro d hd
    cases fill with
    | false => cases hd
    | true => exact ⟨rfl, hd⟩
  have filled : Run.InStep R E L
      ((if fill then defaults else []).foldlM (Level.processDefault table) l)
      ((if fill then defaults else []).foldlM (Level.processDefault table') l') := by
    refine .foldlM ?_ same h
    rintro l l' d _ h ⟨rfl, hd⟩
    exact sides.processDefault h hd
  apply filled.bind
  intro l₁ l₁' h₁
  exact sides.demand h₁

/-- The whole run. -/
theorem run (sides : SideBySide R E A L table table' defaults mandatory) (fill : Bool) {ps qs : Pairs}
    (pairs : List.Forall₂ A ps qs) (h : L l l') :
    Run.InStep R E L (Level.run table defaults mandatory fill ps l)
      (Level.run table' defaults mandatory fill qs l') := by
  rw [run_eq, run_eq]
  have gathered : Run.InStep R E L (l.gather table ps) (l'.gather table' qs) :=
    .foldlM sides.step pairs h
  apply gathered.bind
  intro l₁ l₁' h₁
  exact sides.finish fill h₁

end SideBySide

/-! ## Under the same symbols -/

variable {t : SymbolTable}

/-- The step: two runs meet related pairs, find rules side by side, and either both note the key or
both take what the rules found. -/
theorem agree_process {l l' : Level} {p q : Key × Term}
    (noted : L { l with unknown := l.unknown ++ [l.path.child p.1] }
      { l' with unknown := l'.unknown ++ [l'.path.child q.1] })
    (found : Option.Rel (fun d d' : Dispatch => Run.Agree t E
      (fun found found' => L (l.take found) (l'.take found')) (d p.1 p.2 l) (d' q.1 q.2 l'))
      (valueFor? t table p.1) (valueFor? t table' q.1)) :
    Run.Agree t E L (l.process table p) (l'.process table' q) := by
  rw [Run.agree_iff_inStep]
  apply inStep_process noted
  rintro s s' ⟨rfl, same⟩
  rw [same]
  generalize valueFor? s.symbols table p.1 = d at found ⊢
  generalize valueFor? s.symbols table' q.1 = d' at found ⊢
  cases found with
  | some found => exact .some (Run.agree_iff_inStep.1 found)
  | none => exact .none

/-- How two levels correspond: their states by `L`, their pairs by `A`, their errors by `E`. -/
structure Tandem (t : SymbolTable) (E : ParseError → ParseError → Prop)
    (A : Key × Term → Key × Term → Prop) (L : Level → Level → Prop)
    (table table' : List (Key × Dispatch)) : Prop where
  step : ∀ l l' p q, L l l' → A p q → Run.Agree t E L (l.process table p) (l'.process table' q)
  path : ∀ l l', L l l' → l.path = l'.path
  has : ∀ l l' key, L l l' → l.has key = l'.has key
  default : ∀ p, A p p
  missing : ∀ path, E (.missing path) (.missing path)

/-- The run: pairs, defaults and mandatory names one after the other, by `agree_process` and
induction on the pairs. -/
theorem Tandem.run (tandem : Tandem t E A L table table') (defaults : Pairs) (mandatory : List Key)
    (fill : Bool) {ps qs : Pairs} (pairs : List.Forall₂ A ps qs) {l l' : Level} (h : L l l') :
    Run.Agree t E L (Level.run table defaults mandatory fill ps l)
      (Level.run table' defaults mandatory fill qs l') := by
  have sides : SideBySide (Run.BothHave t) E A L table table' defaults mandatory := by
    refine ⟨?_, tandem.has, fun d _ => tandem.default d, ?_⟩
    · intro l l' p q h hpq
      exact Run.agree_iff_inStep.1 (tandem.step l l' p q h hpq)
    · intro l l' h key _
      rw [tandem.path l l' h]
      exact tandem.missing _
  exact Run.agree_iff_inStep.2 (sides.run fill pairs h)

end Level

/-! ## Items side by side -/

/-- What the items of a list come to. -/
abbrev ItemsFound := List Term × List (Path × Term) × List Path

/-- Two items that are both taken, in a way that goes with whatever corresponds behind them, or both
dropped. -/
inductive Found.Joins (I : ItemsFound → ItemsFound → Prop) : Found → Found → Prop where
  | accept {key key' : Key} {value value' : Term} {flattened flattened' : List (Path × Term)}
    {unknown unknown' : List Path} :
    (∀ rest rest', I rest rest' → I (value :: rest.1, flattened ++ rest.2.1, unknown ++ rest.2.2)
      (value' :: rest'.1, flattened' ++ rest'.2.1, unknown' ++ rest'.2.2)) →
    Joins I (.accept key value flattened unknown) (.accept key' value' flattened' unknown')
  | drop : Joins I .drop .drop

/-- Two items that join, or that both want to replace the level, for which `E` relates the errors. -/
inductive Found.Matches (I : ItemsFound → ItemsFound → Prop) (E : ParseError → ParseError → Prop)
    (path path' : Path) : Found → Found → Prop where
  | joins {found found' : Found} : found.Joins I found' → Matches I E path path' found found'
  | replaceAll {pairs pairs' : Pairs} :
    E (.invalid path .bulkReplacement) (.invalid path' .bulkReplacement) →
    Matches I E path path' (.replaceAll pairs) (.replaceAll pairs')

namespace Dispatch

variable {T : Term → Term → Prop} {I : ItemsFound → ItemsFound → Prop} {path path' : Path}
  {dispatch dispatch' : Term → Run Found}

/-- The items of two lists are in step if they are so one by one. -/
theorem inStep_items (nil : I ([], [], []) ([], [], []))
    (each : ∀ a b, T a b → Run.InStep R E (Found.Matches I E path path') (dispatch a) (dispatch' b))
    {as bs : List Term} (related : List.Forall₂ T as bs) :
    Run.InStep R E I (items path dispatch as) (items path' dispatch' bs) := by
  induction related with
  | nil => exact .pure nil
  | cons first _ ih =>
    apply (each _ _ first).bind
    intro found found' same
    cases same with
    | joins same =>
      cases same with
      | accept join =>
        apply ih.bind
        intro rest rest' h
        exact .pure (join rest rest' h)
      | drop => exact ih
    | replaceAll error => exact .throw error

/-- Dispatches that agree on related elements agree on related lists. -/
theorem agree_items {t : SymbolTable} (nil : I ([], [], []) ([], [], []))
    (each : ∀ a b, T a b → Run.Agree t E (Found.Joins I) (dispatch a) (dispatch' b))
    {as bs : List Term} (related : List.Forall₂ T as bs) :
    Run.Agree t E I (items path dispatch as) (items path' dispatch' bs) := by
  rw [Run.agree_iff_inStep]
  refine inStep_items nil ?_ related
  intro a b hab
  exact (Run.agree_iff_inStep.1 (each a b hab)).mono (fun _ _ same => same) fun _ _ => .joins

/-- The first alternative that takes a value is in step with its counterpart: those before it fail on
both sides, and for the data on both or on none. -/
theorem inStep_firstOf {F : Found → Found → Prop} {key key' : Key} {value value' : Term} {l l' : Level}
    {count : Nat} (data : ∀ e e', E e e' → e.isData = e'.isData)
    (none : E (.invalid (l.path.child key) (.noAlternative value.kind count))
      (.invalid (l'.path.child key') (.noAlternative value'.kind count)))
    {ds ds' : List Dispatch}
    (related : List.Forall₂ (fun d d' => Run.InStep R E F (d key value l) (d' key' value' l')) ds ds') :
    Run.InStep R E F (firstOf count ds key value l) (firstOf count ds' key' value' l') := by
  induction related with
  | nil => exact .throw none
  | @cons d d' _ _ first _ ih =>
    intro j j' hj
    obtain ⟨sessions, results⟩ := first j j' hj
    rcases hd : d key value l j with ⟨e | found, k⟩ <;>
      rcases hd' : d' key' value' l' j' with ⟨e' | found', k'⟩ <;>
      rw [hd, hd'] at sessions results <;> cases results
    · rename_i same
      rw [firstOf_of_error hd, firstOf_of_error hd', data e e' same]
      split
      · exact ih k k' sessions
      · exact ⟨sessions, .error same⟩
    · rename_i same
      rw [firstOf_of_ok hd, firstOf_of_ok hd']
      exact ⟨sessions, .ok same⟩

end Dispatch

end Conform
