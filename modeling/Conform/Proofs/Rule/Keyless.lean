import Conform.Proofs.Level.Equations
import Conform.Proofs.Rule.Depth

/-!
# Rules without the keys that callbacks give

A callback may take a field under another key. The rule whose callbacks give no keys takes the same
values, each under the key of its own field. A list looks at the values of its items only, so that it
takes the same with these keys and without them: the key that a callback gives an item goes nowhere.
-/

namespace Conform

def Verdict.keyless : Verdict → Verdict
  | .rename _ new => .replace new
  | v => v

/-- The callback that decides the same, but gives no key. -/
def Callback.keyless : Callback → Callback
  | .value f => .value fun value => return (← f value).map Verdict.keyless
  | .keyed f => .keyed fun key value => return (← f key value).map Verdict.keyless
  | .contextual f => .contextual fun key value l => return (← f key value l).map Verdict.keyless

mutual

/-- The rule with callbacks that give no keys. Those in levels of their own are left as they are. -/
def Rule.keyless : Rule → Rule
  | .type tag => .type tag
  | .list d inner => .list d inner.keyless
  | .oneOf rules => .oneOf (Rule.keylessAll rules)
  | .nested s => .nested s
  | .callback c => .callback c.keyless
  | .ignore => .ignore

def Rule.keylessAll : List Rule → List Rule
  | [] => []
  | r :: rs => r.keyless :: Rule.keylessAll rs

end

theorem Rule.keylessAll_eq_map (rules : List Rule) : keylessAll rules = rules.map keyless := by
  induction rules with
  | nil => rw [keylessAll, List.map_nil]
  | cons r rs ih => rw [keylessAll, ih, List.map_cons]

/-- What was found, under this key if it is taken. -/
def Found.under (key : Key) : Found → Found
  | .accept _ value flattened unknown => .accept key value flattened unknown
  | found => found

namespace Dispatch

variable {key : Key} {value : Term} {l : Level} {j : Journal}

/-- The dispatcher that takes each field under its own key. -/
def under (d : Dispatch) : Dispatch := fun key value l =>
  return (← d key value l).under key

/-- What a dispatch `under` a key does: the same run, and what it found put under the key. -/
theorem under_apply (d : Dispatch) :
    d.under key value l j = ((d key value l j).1.map (Found.under key), (d key value l j).2) :=
  Run.bind_pure_apply _ _ _

/-- A dispatcher that takes each field under its own key as it is. -/
theorem under_eq_self {d : Dispatch}
    (h : ∀ key value l j found, (d key value l j).1 = .ok found → found.under key = found) :
    d.under = d := by
  funext key value l j
  rw [under_apply]
  refine Prod.ext ?_ rfl
  cases hd : (d key value l j).1 with
  | error e => rfl
  | ok found => exact congrArg Except.ok (h key value l j found hd)

/-- A rule that puts its pair under the key already is the same under it. -/
theorem under_type (tag : Tag) : (type tag).under = type tag := by
  apply under_eq_self
  intro key value l j found h
  obtain ⟨t, -, rfl⟩ := exists_of_type h
  rfl

theorem under_ignore : ignore.under = ignore :=
  rfl

theorem under_list (d : Discipline) (inner : Dispatch) : (list d inner).under = list d inner := by
  apply under_eq_self
  intro key value l j found h
  obtain ⟨values, flattened, unknown, j', -, rfl⟩ := exists_of_list h
  rfl

theorem under_nested (table : List (Key × Dispatch)) (defaults : Pairs) (mandatory : List Key) :
    (nested table defaults mandatory).under = nested table defaults mandatory := by
  apply under_eq_self
  intro key value l j found h
  obtain ⟨inner, rfl⟩ := exists_of_nested h
  rfl

/-- A callback that gives no key takes what it takes under the key of the field. -/
theorem callback_keyless (c : Callback) : callback c.keyless = (callback c).under := by
  funext key value l j
  have keyless : c.keyless.apply key value l j.session
      = ((c.apply key value l j.session).1.map Verdict.keyless,
        (c.apply key value l j.session).2) := by
    cases c <;> rfl
  rw [under_apply]
  rcases hv : c.apply key value l j.session with ⟨_ | v, session⟩ <;> rw [hv] at keyless
  · rw [callback_of_none hv, callback_of_none keyless]
    rfl
  · rw [callback_of_some hv, callback_of_some keyless]
    cases v <;> rfl

/-- Putting alternatives under the key puts what the taken one found under it. -/
theorem firstOf_under (count : Nat) (ds : List Dispatch) :
    firstOf count (ds.map under) = (firstOf count ds).under := by
  funext key value l j
  rw [under_apply]
  induction ds generalizing j with
  | nil => rfl
  | cons d ds ih =>
    have first : d.under key value l j = _ := under_apply d
    rw [List.map_cons]
    rcases hd : d key value l j with ⟨e | found, j'⟩ <;> rw [hd] at first
    · rw [firstOf_of_error first, firstOf_of_error hd]
      split
      · exact ih j'
      · rfl
    · rw [firstOf_of_ok first, firstOf_of_ok hd]
      rfl

/-- Of what is taken for an item the key is not looked at. -/
theorem items_under (path : Path) (d : Dispatch) (key : Key) (l : Level) (ts : List Term) :
    items path (fun t => d.under key t l) ts = items path (fun t => d key t l) ts := by
  induction ts with
  | nil => rfl
  | cons t ts ih =>
    funext j
    rw [items, items, Run.bind_apply, Run.bind_apply, under_apply]
    rcases d key t l j with ⟨e | found, j'⟩
    · rfl
    · cases found with
      | accept | drop => simp only [Except.map, Found.under, ih]
      | replaceAll => rfl

/-- A list discards the keys of its elements' pairs, so nothing is lost by putting them under its
own. -/
theorem list_under (d : Discipline) (inner : Dispatch) : list d inner.under = list d inner := by
  funext key value l
  unfold list
  rw [items_under]

end Dispatch

/-- **A rule without keys** takes what the rule takes, under the key of the field. -/
theorem Rule.dispatch_keyless (r : Rule) : r.keyless.dispatch = r.dispatch.under := by
  induction r using Rule.induct with
  | type tag => rw [keyless, dispatch, Dispatch.under_type]
  | list d inner ih => rw [keyless, dispatch, dispatch, ih, Dispatch.list_under, Dispatch.under_list]
  | oneOf rules ih =>
    have each : dispatchAll (keylessAll rules) = (dispatchAll rules).map Dispatch.under := by
      rw [keylessAll_eq_map, dispatchAll_eq_map, dispatchAll_eq_map, List.map_map, List.map_map]
      exact List.map_congr_left ih
    rw [keyless, dispatch, dispatch, each, Dispatch.firstOf_under, keylessAll_eq_map, List.length_map]
  | nested s => rw [keyless, dispatch, s.dispatch_eq, Dispatch.under_nested]
  | callback c => rw [keyless, dispatch, dispatch, Dispatch.callback_keyless]
  | ignore => rw [keyless, dispatch, Dispatch.under_ignore]

/-- A list takes the same whether the callbacks of its items give keys or not. -/
theorem Rule.dispatch_list_keyless (d : Discipline) (inner : Rule) :
    (Rule.list d inner.keyless).dispatch = (Rule.list d inner).dispatch := by
  rw [dispatch, dispatch, dispatch_keyless, Dispatch.list_under]

end Conform
