import Conform.Proofs.Load.Agreement
import Mathlib.Data.String.Basic

/-!
# The store as a map

What a store holds in a slot is what the operations on that slot have left there. Each operation is a
function of the slot's value alone: `Operation.effect` says which, for a load the last value of the slot's
key among those that the document is decoded into and the schema accepts (`Schema.outputOf?`, `Output.puts?`). `get?_run` is the step and `get?_replay` the run, over any history, with
loads that succeed and loads that fail. Everything else that a store shows (the values removed, the number
of values, the entries of a scope) is read off the same map.
-/

namespace Conform

/-! ## What a load puts into a slot -/

/-- The output of a text under a schema: the text is decoded into a term by `Format.decode`, and the term is
accepted by `Schema.parse`. No store has a part in it. -/
def Schema.outputOf? (schema : Schema) (options : LoadOptions) (j : Journal) (format : Format)
    (text : String) : Option Output :=
  match (format.decode text).run j.session with
  | (.error _, _) => none
  | (.ok term, session) =>
    ((schema.parse options.parse term).run { j with session := session }).1.toOption

/-- The output of a file, whose bytes have to be a text. -/
def Schema.outputOfFile? (schema : Schema) (options : LoadOptions) (j : Journal) (file : String)
    (bytes : Option (List UInt8)) : Option Output :=
  (bytes.bind Text.Utf8.decode).bind fun cs =>
    schema.outputOf? options (j.log (.loading file)) (.ofPath file) (String.ofList cs)

/-- The value that an output puts into a slot when it is published, if it puts one there: the last value of
the slot's key, in the owner and the scope of the load. -/
def Output.puts? (out : Output) (options : LoadOptions) (a : Slot) : Option Term :=
  if a.owner = options.owner ∧ a.scope = options.scope then out.last? a.key else none

theorem Output.last?_eq_none_iff {out : Output} {name : String} :
    out.last? name = none ↔ ∀ p ∈ out.accepted, p.1.name ≠ name := by
  simp [last?, Term.lookup]

theorem Output.exists_of_last? {out : Output} {name : String} {value : Term}
    (h : out.last? name = some value) : ∃ p ∈ out.accepted, p.1.name = name := by
  obtain ⟨p, found, -⟩ := Option.map_eq_some_iff.1 h
  exact ⟨p, List.mem_reverse.1 (List.mem_of_find?_eq_some found), by simpa using List.find?_some found⟩

/-- A load that publishes its output leaves every slot with what it puts there, or as it was. -/
theorem Loaded.Publishes.get?_eq {r : Loaded} {options : LoadOptions} {s : Store}
    (h : r.Publishes options s) (a : Slot) :
    r.store.get? a = (r.result.toOption.bind (·.puts? options a)).or (s.get? a) := by
  cases ok : r.result with
  | error fault => exact h.refused fault ok a
  | ok out =>
    change _ = (out.puts? options a).or (s.get? a)
    unfold Output.puts?
    by_cases scope : a.owner = options.owner ∧ a.scope = options.scope
    · rw [if_pos scope]
      obtain ⟨owner, scope, key⟩ := a
      obtain ⟨rfl, rfl⟩ := scope
      cases last : out.last? key with
      | none =>
        refine h.kept out ok _ fun p hp same => ?_
        exact Output.last?_eq_none_iff.1 last p hp (Slot.mk.inj same).2.2.symm
      | some value =>
        obtain ⟨p, hp, rfl⟩ := Output.exists_of_last? last
        rw [h.get?_eq_last ok hp, last]
        rfl
    · rw [if_neg scope]
      refine h.kept out ok a fun p _ same => scope ?_
      rw [same]
      exact ⟨rfl, rfl⟩

variable {file : String} {schema : Schema} {options : LoadOptions} {s : Store} {j : Journal} {r : Loaded}

/-- A load gives the output of its text, in whatever store it takes place. -/
theorem Loaded.Ends.toOption_result {format : Format} {text : String}
    (ends : Ends file format text schema options s j r) :
    r.result.toOption = schema.outputOf? options j format text := by
  unfold Schema.outputOf?
  cases ends with
  | malformed decoded =>
    rw [decoded]
    rfl
  | invalid decoded parsed | published decoded parsed =>
    rw [decoded]
    dsimp only
    rw [parsed]
    rfl

/-- Loading a file gives the output of the file. -/
theorem Loaded.FileEnds.toOption_result {bytes : Option (List UInt8)}
    (ends : FileEnds file bytes schema options s j r) :
    r.result.toOption = schema.outputOfFile? options j file bytes := by
  unfold Schema.outputOfFile?
  cases ends with
  | unreadable unread =>
    rw [unread]
    rfl
  | read decoded ends =>
    rw [decoded]
    exact ends.toOption_result

namespace Store

/-! ## Operations -/

/-- What is done to a store. A load finds the journal as all else has left it. -/
inductive Operation where
  | put (a : Slot) (value : Term)
  | delete (a : Slot)
  | increment (a : Slot) (delta : Int64)
  | load (format : Format) (text : String) (schema : Schema) (options : LoadOptions) (j : Journal)
  | loadFile (file : String) (bytes : Option (List UInt8)) (schema : Schema) (options : LoadOptions)
    (j : Journal)

/-- The store after an operation. -/
def Operation.run (s : Store) : Operation → Store
  | .put a value => s.put a value
  | .delete a => (s.remove a).2
  | .increment a delta => (s.increment a delta).2
  | .load format text schema options j => (loadText format text schema options s j).store
  | .loadFile file bytes schema options j => (Conform.loadFile file bytes schema options s j).store

/-- The store after operations, one after another. -/
def replay (ops : List Operation) (s : Store) : Store :=
  ops.foldl Operation.run s

/-- What counting up makes of a slot's value: no value counts as zero, and what is no integer, or would
not fit as a sum, stays. -/
def counted (before : Option Term) (delta : Int64) : Option Term :=
  match before with
  | none => some (.integer delta)
  | some (.integer i) => some (.integer ((toInt64? (i.toInt + delta.toInt)).getD i))
  | some t => some t

/-- What an operation makes of the value in a slot. A load puts there what publishing the output of its
document puts there, if there is an output. -/
def Operation.effect (a : Slot) (before : Option Term) : Operation → Option Term
  | .put b value => if b = a then some value else before
  | .delete b => if b = a then none else before
  | .increment b delta => if b = a then counted before delta else before
  | .load format text schema options j =>
    ((schema.outputOf? options j format text).bind (·.puts? options a)).or before
  | .loadFile file bytes schema options j =>
    ((schema.outputOfFile? options j file bytes).bind (·.puts? options a)).or before

/-- Whether an operation is on a slot. A load is on the slots that its output puts values into. -/
def Operation.concerns (a : Slot) : Operation → Bool
  | .put b _ => b = a
  | .delete b => b = a
  | .increment b _ => b = a
  | .load format text schema options j =>
    ((schema.outputOf? options j format text).bind (·.puts? options a)).isSome
  | .loadFile file bytes schema options j =>
    ((schema.outputOfFile? options j file bytes).bind (·.puts? options a)).isSome

/-- What the operations of a history leave in a slot that is empty at first. -/
def left (ops : List Operation) (a : Slot) : Option Term :=
  ops.foldl (Operation.effect a) none

theorem get?_remove (s : Store) (a b : Slot) :
    (s.remove a).2.get? b = if a = b then none else s.get? b := by
  simp only [remove, delete, get?, Std.TreeMap.getElem?_erase, Std.LawfulEqOrd.compare_eq_iff_eq]

theorem get?_increment (s : Store) (a b : Slot) (delta : Int64) :
    (s.increment a delta).2.get? b = if a = b then counted (s.get? b) delta else s.get? b := by
  by_cases same : a = b
  · subst same
    rw [if_pos rfl]
    unfold increment count counted
    cases held : s.get? a with
    | none => simp [get?_put]
    | some t =>
      cases t with
      | integer i =>
        cases fits : toInt64? (i.toInt + delta.toInt) with
        | none => simpa [fits] using held
        | some sum => simp [fits, get?_put]
      | _ => exact held
  · rw [if_neg same]
    unfold increment
    cases s.count a delta with
    | ok i => exact (get?_put s a b _).trans (if_neg same)
    | error fault => rfl

/-- **One step.** An operation changes each slot by its effect there. -/
theorem get?_run (s : Store) (op : Operation) (a : Slot) :
    (op.run s).get? a = op.effect a (s.get? a) := by
  cases op with
  | put b value => exact get?_put s b a value
  | delete b => exact get?_remove s b a
  | increment b delta => exact get?_increment s b a delta
  | load format text schema options j =>
    have ends := load_ends memoryName format text schema options s j
    have value := ends.publishes.get?_eq a
    rwa [ends.toOption_result] at value
  | loadFile file bytes schema options j =>
    have ends := loadFile_ends file bytes schema options s j
    have value := ends.publishes.get?_eq a
    rwa [ends.toOption_result] at value

/-- **A whole history.** A slot holds what its effects, one after another, make of what it held. -/
theorem get?_replay (ops : List Operation) (s : Store) (a : Slot) :
    (replay ops s).get? a = ops.foldl (Operation.effect a) (s.get? a) := by
  induction ops generalizing s with
  | nil => rfl
  | cons op ops ih =>
    have rest := ih (op.run s)
    rw [get?_run] at rest
    exact rest

/-- An operation has no effect on a slot that it does not concern. -/
theorem effect_of_not_concerns {op : Operation} {a : Slot} (h : ¬op.concerns a = true)
    (before : Option Term) : op.effect a before = before := by
  cases op with
  | put | delete | increment =>
    simp only [Operation.concerns, decide_eq_true_eq] at h
    simp only [Operation.effect, if_neg h]
  | load | loadFile =>
    simp only [Operation.concerns, Option.isSome_iff_ne_none, ne_eq, not_not] at h
    simp only [Operation.effect, h, Option.none_or]

/-- Operations on other slots make no difference. -/
theorem left_filter (ops : List Operation) (a : Slot) :
    left (ops.filter (·.concerns a)) a = left ops a := by
  unfold left
  generalize (none : Option Term) = before
  induction ops generalizing before with
  | nil => rfl
  | cons op ops ih =>
    by_cases h : op.concerns a
    · rw [List.filter_cons_of_pos h, List.foldl_cons, List.foldl_cons, ih]
    · rw [List.filter_cons_of_neg h, List.foldl_cons, effect_of_not_concerns h, ih]

/-! ## What a store shows -/

/-- The key and the value of an entry, if it is in the scope. -/
def inScope? (owner scope : String) (entry : Slot × Term) : Option (String × Term) :=
  if entry.1.owner = owner ∧ entry.1.scope = scope then some (entry.1.key, entry.2) else none

theorem inScope?_eq_some_iff {owner scope : String} {entry : Slot × Term} {listed : String × Term} :
    inScope? owner scope entry = some listed ↔ entry = (⟨owner, scope, listed.1⟩, listed.2) := by
  obtain ⟨⟨o, s, k⟩, v⟩ := entry
  obtain ⟨k', v'⟩ := listed
  simp [inScope?, and_assoc]

/-- The entries of a scope are the values of its slots. -/
theorem mem_entries_iff (s : Store) (owner scope key : String) (value : Term) :
    (key, value) ∈ s.entries owner scope ↔ s.get? ⟨owner, scope, key⟩ = some value := by
  change _ ∈ s.values.toList.filterMap (inScope? owner scope) ↔ _
  rw [get?, ← Std.TreeMap.mem_toList_iff_getElem?_eq_some, List.mem_filterMap]
  simp only [inScope?_eq_some_iff, exists_eq_right]

/-- Within a scope slots are ordered by their keys. -/
theorem lt_of_order {owner scope key key' : String}
    (h : compare (⟨owner, scope, key⟩ : Slot) ⟨owner, scope, key'⟩ = .lt) : key < key' := by
  change Slot.order _ _ = .lt at h
  simp only [Slot.order, compareLex, compareOn, Std.ReflCmp.compare_self, Ordering.eq_then] at h
  exact compareOfLessAndEq_eq_lt.1 h

/-- They are listed by key, in ascending order. -/
theorem pairwise_entries (s : Store) (owner scope : String) :
    (s.entries owner scope).Pairwise fun x y => x.1 < y.1 := by
  refine List.Pairwise.filterMap (inScope? owner scope) ?_ Std.TreeMap.ordered_keys_toList
  intro e e' before x hx y hy
  rw [inScope?_eq_some_iff.1 hx, inScope?_eq_some_iff.1 hy] at before
  exact lt_of_order before

/-- The entries of a scope come of sorting them by key, in whichever order the values were listed. -/
theorem entries_eq_mergeSort (s : Store) (owner scope : String) {listed : List (Slot × Term)}
    (perm : listed.Perm s.values.toList) :
    (listed.filterMap (inScope? owner scope)).mergeSort (fun x y => x.1 ≤ y.1)
      = s.entries owner scope := by
  have same : ((listed.filterMap (inScope? owner scope)).mergeSort fun x y => x.1 ≤ y.1).Perm
      (s.entries owner scope) :=
    (List.mergeSort_perm _ _).trans (perm.filterMap _)
  have sorted : ((listed.filterMap (inScope? owner scope)).mergeSort fun x y => x.1 ≤ y.1).Pairwise
      fun x y => x.1 ≤ y.1 := by
    refine (List.pairwise_mergeSort ?_ ?_ _).imp fun h => by simpa using h
    · intro x y z first second
      simp only [decide_eq_true_eq] at first second ⊢
      exact le_trans first second
    · intro x y
      simp only [Bool.or_eq_true, decide_eq_true_eq]
      exact le_total x.1 y.1
  have ascending : (s.entries owner scope).Pairwise fun x y => x.1 ≤ y.1 :=
    (pairwise_entries s owner scope).imp le_of_lt
  refine List.Perm.eq_of_pairwise ?_ sorted ascending same
  intro x y hx hy le ge
  -- A key stands in the list once, since a slot holds one value.
  obtain ⟨key, value⟩ := x
  obtain ⟨key', value'⟩ := y
  obtain rfl : key = key' := le_antisymm le ge
  have first := (mem_entries_iff s owner scope key value).1 (same.mem_iff.1 hx)
  have second := (mem_entries_iff s owner scope key value').1 hy
  rw [first] at second
  rw [Option.some.inj second]

/-- The store, from outside, is this map from slots to values. -/
structure Shows (s : Store) (m : Slot → Option Term) : Prop where
  get : ∀ a default, s.getD a default = (m a).getD default
  removed : ∀ a, (s.remove a).1 = m a
  size : ∃ slots : List Slot, slots.Nodup ∧ (∀ a, a ∈ slots ↔ m a ≠ none) ∧ s.size = slots.length
  ascending : ∀ owner scope, (s.entries owner scope).Pairwise fun x y => x.1 < y.1
  entries : ∀ owner scope key value,
    (key, value) ∈ s.entries owner scope ↔ m ⟨owner, scope, key⟩ = some value
  sorted : ∀ owner scope (listed : List (Slot × Term)), listed.Perm s.values.toList →
    (listed.filterMap (inScope? owner scope)).mergeSort (fun x y => x.1 ≤ y.1)
      = s.entries owner scope

/-- The observations a store shows are those of its slots. -/
theorem shows_get? (s : Store) : s.Shows s.get? where
  get _ _ := rfl
  removed _ := rfl
  size := by
    refine ⟨s.values.keys, ?_, fun a => ?_, Std.TreeMap.length_keys.symm⟩
    · apply Std.TreeMap.distinct_keys.imp
      rintro a b other rfl
      exact other Std.ReflCmp.compare_self
    · rw [Std.TreeMap.mem_keys, ← Std.TreeMap.isSome_getElem?_iff_mem, Option.isSome_iff_ne_none]
      rfl
  ascending := pairwise_entries s
  entries := mem_entries_iff s
  sorted owner scope _ perm := entries_eq_mergeSort s owner scope perm

/-- **The store is the map that its history leaves.** After any operations on an empty store, loads that
succeed and loads that fail among them, it shows in every slot what the operations have left there, and
those on other slots make no difference to it. -/
theorem replay_shows_left (ops : List Operation) :
    (replay ops .empty).Shows (left ops) ∧
      ∀ a, left (ops.filter (·.concerns a)) a = left ops a := by
  refine ⟨?_, left_filter ops⟩
  have same : (replay ops .empty).get? = left ops := by
    funext a
    have nothing : empty.get? a = none := Std.TreeMap.getElem?_emptyc
    rw [get?_replay, nothing, left]
  rw [← same]
  exact shows_get? _

/-- Counting goes on from the value that was put, whatever happens to another slot in between. -/
example :
    let visits : Slot := ⟨"app", "global", "visits"⟩
    let errors : Slot := ⟨"app", "global", "errors"⟩
    left [.put visits (.integer 1), .increment errors 5, .delete errors, .increment visits 2] visits
      = some (.integer 3) := rfl

end Store

end Conform
