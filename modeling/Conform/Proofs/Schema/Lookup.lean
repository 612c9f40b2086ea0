import Conform.Level.Dispatch

/-!
# Looking keys up

Lookup is by key, so it does not matter what the entries hold: a table that was changed entry by
entry answers with the changed entry. The dispatchers of a schema's fields are such a table.
-/

namespace Conform

variable {α β : Type}

/-- What a lookup finds is in the table, under a key of the name that was looked up. -/
theorem mem_of_valueAt? {table : List (Key × α)} {key : Key} {a : α}
    (h : valueAt? table key = some a) : (key, a) ∈ table := by
  obtain ⟨⟨k, a'⟩, found, rfl⟩ := Option.map_eq_some_iff.1 h
  have same : k = key := by simpa using List.find?_some found
  subst same
  exact List.mem_of_find?_eq_some found

/-- A lookup finds an entry of the key's name, by the text or by the symbol. -/
theorem mem_of_valueFor? {symbols : SymbolTable} {table : List (Key × α)} {key : Key} {a : α}
    (h : valueFor? symbols table key = some a) : ∃ k, k.name = key.name ∧ (k, a) ∈ table := by
  simp only [valueFor?, Option.orElse_eq_or, Option.or_eq_some_iff] at h
  rcases h with h | ⟨_, h⟩
  · exact ⟨key, rfl, mem_of_valueAt? h⟩
  · cases key with
    | symbol s => exact ⟨.text s.name, rfl, mem_of_valueAt? h⟩
    | text t =>
      obtain ⟨s, found, h⟩ := Option.bind_eq_some_iff.1 h
      obtain ⟨rfl, -⟩ := SymbolTable.existing?_eq_some_iff.1 found
      exact ⟨.symbol ⟨t⟩, rfl, mem_of_valueAt? h⟩

theorem valueAt?_map (f : α → β) (table : List (Key × α)) (key : Key) :
    valueAt? (table.map fun e => (e.1, f e.2)) key = (valueAt? table key).map f := by
  simp only [valueAt?, List.find?_map, Option.map_map, Function.comp_def]

/-- Lookup commutes with mapping the values: rules, dispatches and tracers are found alike. -/
theorem valueFor?_map (f : α → β) (symbols : SymbolTable) (table : List (Key × α)) (key : Key) :
    valueFor? symbols (table.map fun e => (e.1, f e.2)) key
      = (valueFor? symbols table key).map f := by
  cases key with
  | symbol s =>
    simp only [valueFor?, valueAt?_map]
    cases valueAt? table (.symbol s) <;> rfl
  | text t =>
    simp only [valueFor?, valueAt?_map]
    cases valueAt? table (.text t) with
    | some a => rfl
    | none => cases symbols.existing? t <;> rfl

namespace Rule

theorem dispatchFields_eq_map (fields : List (Key × Rule)) :
    dispatchFields fields = fields.map fun e => (e.1, e.2.dispatch) := by
  induction fields with
  | nil => rw [dispatchFields, List.map_nil]
  | cons e rest ih => rw [dispatchFields, ih, List.map_cons]

/-- What holds of each field's dispatcher under the field's key holds of the whole table. -/
theorem forall_mem_dispatchFields {P : Key × Dispatch → Prop} {fields : List (Key × Rule)}
    (h : ∀ f ∈ fields, P (f.1, f.2.dispatch)) : ∀ entry ∈ dispatchFields fields, P entry := by
  rw [dispatchFields_eq_map]
  exact List.forall_mem_map.2 h

theorem dispatchAll_eq_map (rules : List Rule) : dispatchAll rules = rules.map dispatch := by
  induction rules with
  | nil => rw [dispatchAll, List.map_nil]
  | cons r rest ih => rw [dispatchAll, ih, List.map_cons]

/-- The dispatcher of a key is that of the key's rule. -/
theorem valueFor?_dispatchFields (symbols : SymbolTable) (s : Schema) (key : Key) :
    valueFor? symbols (dispatchFields s.fields) key = (s.ruleFor? symbols key).map dispatch := by
  rw [dispatchFields_eq_map, valueFor?_map, Schema.ruleFor?]

end Rule

theorem Schema.mem_of_ruleFor? {symbols : SymbolTable} {s : Schema} {key : Key} {r : Rule}
    (h : s.ruleFor? symbols key = some r) : ∃ k, k.name = key.name ∧ (k, r) ∈ s.fields :=
  mem_of_valueFor? h

end Conform
