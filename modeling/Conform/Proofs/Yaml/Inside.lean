import Conform.Term.Yaml

/-!
# Values within YAML values

A value is reached through items, through the values of pairs and through tags; keys are not entered. So
the mappings that are reached are those whose pairs become pairs of terms, and their keys are the ones
that have to spell a name.
-/

namespace Conform.Yaml

/-- The first value is the second one or is reached from it. -/
inductive Inside : Yaml → Yaml → Prop where
  | refl (v : Yaml) : Inside v v
  | item {v item : Yaml} {items : List Yaml} :
    item ∈ items → Inside v item → Inside v (.sequence items)
  | value {v : Yaml} {pair : Yaml × Yaml} {pairs : List (Yaml × Yaml)} :
    pair ∈ pairs → Inside v pair.2 → Inside v (.mapping pairs)
  | tagged {v value : Yaml} {tag : String} : Inside v value → Inside v (.tagged tag value)

/-- A property holds of every mapping that is reached. -/
def EachMapping (P : List (Yaml × Yaml) → Prop) (v : Yaml) : Prop :=
  ∀ pairs, Inside (.mapping pairs) v → P pairs

section EachMapping

variable {P : List (Yaml × Yaml) → Prop}

@[simp]
theorem eachMapping_sequence_iff {items : List Yaml} :
    EachMapping P (.sequence items) ↔ ∀ v ∈ items, v.EachMapping P := by
  constructor
  · exact fun h v mem pairs inside => h pairs (.item mem inside)
  · intro h pairs inside
    cases inside with
    | item mem inside => exact h _ mem pairs inside

/-- Inside a mapping: of itself and inside its values. Keys are not entered, as no collection is a
key. -/
@[simp]
theorem eachMapping_mapping_iff {pairs : List (Yaml × Yaml)} :
    EachMapping P (.mapping pairs) ↔ P pairs ∧ ∀ p ∈ pairs, p.2.EachMapping P := by
  constructor
  · exact fun h => ⟨h pairs (.refl _), fun p mem others inside => h others (.value mem inside)⟩
  · rintro ⟨here, each⟩ others inside
    cases inside with
    | refl => exact here
    | value mem inside => exact each _ mem others inside

@[simp]
theorem eachMapping_tagged_iff {tag : String} {value : Yaml} :
    EachMapping P (.tagged tag value) ↔ value.EachMapping P := by
  constructor
  · exact fun h pairs inside => h pairs (.tagged inside)
  · intro h pairs inside
    cases inside with
    | tagged inside => exact h pairs inside

/-- A scalar reaches no mapping. -/
@[simp]
theorem eachMapping_scalar {v : Yaml} (sequence : ∀ items, v ≠ .sequence items)
    (mapping : ∀ pairs, v ≠ .mapping pairs) (tagged : ∀ tag value, v ≠ .tagged tag value) :
    v.EachMapping P := by
  intro pairs inside
  cases inside with
  | refl => exact absurd rfl (mapping _)
  | item => exact absurd rfl (sequence _)
  | value => exact absurd rfl (mapping _)
  | tagged => exact absurd rfl (tagged _ _)

end EachMapping

/-! ## Keys in the order in which they are met -/

mutual

/-- The keys of the mappings that are reached, each before those in its value. -/
def keys : Yaml → List Yaml
  | .sequence items => keysOfItems items
  | .mapping pairs => keysOfPairs pairs
  | .tagged _ value => keys value
  | _ => []

def keysOfItems : List Yaml → List Yaml
  | [] => []
  | v :: vs => keys v ++ keysOfItems vs

def keysOfPairs : List (Yaml × Yaml) → List Yaml
  | [] => []
  | (k, v) :: ps => k :: (keys v ++ keysOfPairs ps)

end

mutual

/-- A property holds of all keys if each mapping that is reached has no others. -/
theorem forall_mem_keys_iff {p : Yaml → Prop} (v : Yaml) :
    (∀ k ∈ v.keys, p k) ↔ v.EachMapping fun pairs => ∀ pair ∈ pairs, p pair.1 := by
  cases v with
  | sequence items => rw [keys, eachMapping_sequence_iff]; exact forall_mem_keysOfItems_iff items
  | mapping pairs => rw [keys, eachMapping_mapping_iff]; exact forall_mem_keysOfPairs_iff pairs
  | tagged tag value => rw [keys, eachMapping_tagged_iff]; exact forall_mem_keys_iff value
  | null | boolean | integer | float | string => simp [keys]

/-- What holds of all keys inside holds of the keys of each mapping inside. -/
theorem forall_mem_keysOfItems_iff {p : Yaml → Prop} (vs : List Yaml) :
    (∀ k ∈ keysOfItems vs, p k) ↔
      ∀ v ∈ vs, v.EachMapping fun pairs => ∀ pair ∈ pairs, p pair.1 := by
  cases vs with
  | nil => simp [keysOfItems]
  | cons v vs =>
    rw [keysOfItems, List.forall_mem_append, List.forall_mem_cons, forall_mem_keys_iff v,
      forall_mem_keysOfItems_iff vs]

theorem forall_mem_keysOfPairs_iff {p : Yaml → Prop} (ps : List (Yaml × Yaml)) :
    (∀ k ∈ keysOfPairs ps, p k) ↔ (∀ pair ∈ ps, p pair.1) ∧
      ∀ pair ∈ ps, pair.2.EachMapping fun pairs => ∀ pair ∈ pairs, p pair.1 := by
  cases ps with
  | nil => simp [keysOfPairs]
  | cons pair ps =>
    rw [keysOfPairs, List.forall_mem_cons, List.forall_mem_append, List.forall_mem_cons,
      List.forall_mem_cons, forall_mem_keys_iff pair.2, forall_mem_keysOfPairs_iff ps, ← and_assoc,
      and_and_and_comm]

end

/-- The keys are those of the mappings that are reached. -/
theorem mem_keys_iff {k v : Yaml} :
    k ∈ v.keys ↔ ∃ pairs, Inside (.mapping pairs) v ∧ ∃ pair ∈ pairs, pair.1 = k := by
  have absent := forall_mem_keys_iff (p := (· ≠ k)) v
  simpa [EachMapping] using not_congr absent

/-! ## Kinds of keys -/

def untagged : Yaml → Yaml
  | .tagged _ value => untagged value
  | v => v

def isCollection : Yaml → Bool
  | .sequence _ | .mapping _ => true
  | _ => false

def isTagged : Yaml → Bool
  | .tagged .. => true
  | _ => false

def isLiteral : Yaml → Bool
  | .boolean _ | .integer _ | .float _ => true
  | _ => false

end Conform.Yaml
