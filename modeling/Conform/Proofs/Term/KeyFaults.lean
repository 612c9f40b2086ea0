import Conform.Proofs.Run
import Conform.Proofs.Yaml.Inside

/-!
# Keys that spell no name

A YAML value fails to become a term for one reason alone: a key of a mapping that is reached is neither
a string nor a number nor a truth value. Values are gone through in their order, each key before its
value, and the first such key is the one that the failure tells.
-/

namespace Conform.Term

/-- The key that a failure tells. -/
def keyOfFault {α : Type} : Except KeyFault α → Option Yaml
  | .ok _ => none
  | .error fault => some fault.key

/-- Whether a key spells no name. -/
def isNameless (k : Yaml) : Bool :=
  !(keyOfYaml k).isOk

/-- The keys without a name: collections under any tags, nulls, and tagged scalars. -/
theorem isNameless_iff {k : Yaml} :
    isNameless k = true ↔ k.untagged.isCollection = true ∨ k = .null ∨ k.isTagged = true := by
  cases k <;>
    simp [isNameless, keyOfYaml, Yaml.untagged, Yaml.isCollection, Yaml.isTagged, Except.isOk, Except.toBool]

/-- A conversion fails because of this key, or does not fail, whatever has been created before. -/
def FailsBy {α : Type} (key : Option Yaml) (x : ExceptT KeyFault Creating α) : Prop :=
  ∀ s, keyOfFault (x s).1 = key

namespace FailsBy

variable {α β : Type} {key key' : Option Yaml} {x : ExceptT KeyFault Creating α}

theorem pure (a : α) : FailsBy none (Pure.pure a) :=
  fun _ => rfl

/-- Of two failures the first is told. -/
theorem bind (h : FailsBy key x) {f : α → ExceptT KeyFault Creating β}
    (next : ∀ a, FailsBy key' (f a)) : FailsBy (key.or key') (x >>= f) := by
  intro s
  rw [Run.bind_apply, ← h s]
  rcases x s with ⟨fault | a, s'⟩
  · rfl
  · exact next a s'

theorem map (h : FailsBy key x) (f : α → β) : FailsBy key (x >>= fun a => Pure.pure (f a)) := by
  have whole := h.bind fun a => .pure (f a)
  rwa [Option.or_none] at whole

end FailsBy

/-- A key fails by itself iff it is nameless. -/
theorem failsBy_keyOfYaml (k : Yaml) :
    FailsBy ([k].find? isNameless) (keyOfYaml k : ExceptT KeyFault Creating String) := by
  intro s
  cases k <;> rfl

mutual

/-- Decoding fails by the first nameless key in `keys`, and succeeds where there is none, by
induction with its two companions. -/
theorem failsBy_ofYaml (v : Yaml) : FailsBy (v.keys.find? isNameless) (ofYaml v) := by
  cases v with
  | sequence items => rw [ofYaml, Yaml.keys]; exact (failsBy_itemsOfYaml items).map Term.list
  | mapping pairs => rw [ofYaml, Yaml.keys]; exact (failsBy_pairsOfYaml pairs).map Term.map
  | tagged tag value => rw [ofYaml, Yaml.keys]; exact failsBy_ofYaml value
  | null => exact fun _ => rfl
  | boolean | integer | float | string => exact .pure _

theorem failsBy_itemsOfYaml (vs : List Yaml) :
    FailsBy ((Yaml.keysOfItems vs).find? isNameless) (itemsOfYaml vs) := by
  cases vs with
  | nil => exact .pure []
  | cons v vs =>
    rw [itemsOfYaml, Yaml.keysOfItems, List.find?_append]
    exact (failsBy_ofYaml v).bind fun t => (failsBy_itemsOfYaml vs).map (t :: ·)

theorem failsBy_pairsOfYaml (ps : List (Yaml × Yaml)) :
    FailsBy ((Yaml.keysOfPairs ps).find? isNameless) (pairsOfYaml ps) := by
  cases ps with
  | nil => exact .pure []
  | cons p ps =>
    rw [pairsOfYaml, Yaml.keysOfPairs, ← List.singleton_append, List.find?_append, List.find?_append]
    exact (failsBy_keyOfYaml p.1).bind fun key => (failsBy_ofYaml p.2).bind fun t =>
      (failsBy_pairsOfYaml ps).map ((.text key, t) :: ·)

end

/-- Which key a failure names. -/
theorem keyOfFault_eq_some_iff {α : Type} {x : Except KeyFault α} {key : Yaml} :
    keyOfFault x = some key ↔ x = .error ⟨key⟩ := by
  cases x with
  | ok a => simp [keyOfFault]
  | error fault =>
    cases fault
    simp [keyOfFault]

/-- **A YAML value is no term if and only if a key spells no name.** A key of a mapping that is reached
spells none if it is a sequence or a mapping, within tags or not; and also if it is a null, or has a tag
around it. The failure tells the first such key. -/
theorem fails_iff_nameless_key (v : Yaml) (s : Session) :
    ((∃ fault, (ofYaml v s).1 = .error fault) ↔
      ∃ pairs, Yaml.Inside (.mapping pairs) v ∧ ∃ p ∈ pairs,
        p.1.untagged.isCollection = true ∨ p.1 = .null ∨ p.1.isTagged = true) ∧
    ∀ key, (ofYaml v s).1 = .error ⟨key⟩ ↔ v.keys.find? isNameless = some key := by
  have told := failsBy_ofYaml v s
  have first (key : Yaml) : (ofYaml v s).1 = .error ⟨key⟩ ↔ v.keys.find? isNameless = some key := by
    rw [← told, keyOfFault_eq_some_iff]
  refine ⟨?_, first⟩
  calc (∃ fault, (ofYaml v s).1 = .error fault)
    _ ↔ ∃ key, v.keys.find? isNameless = some key :=
      ⟨fun ⟨fault, h⟩ => ⟨fault.key, (first _).1 h⟩, fun ⟨key, h⟩ => ⟨⟨key⟩, (first _).2 h⟩⟩
    _ ↔ ∃ key ∈ v.keys, isNameless key = true := by
      rw [← Option.isSome_iff_exists, List.find?_isSome]
    _ ↔ _ := by
      simp only [Yaml.mem_keys_iff, isNameless_iff]
      constructor
      · rintro ⟨_, ⟨pairs, inside, p, mem, rfl⟩, nameless⟩
        exact ⟨pairs, inside, p, mem, nameless⟩
      · rintro ⟨pairs, inside, p, mem, nameless⟩
        exact ⟨p.1, ⟨pairs, inside, p, mem, rfl⟩, nameless⟩

/-- The keys are a string with a tag around it and a null, and neither of them becomes a name. -/
theorem scalar_keys_refused :
    let keyed (k : Yaml) : Yaml := .mapping [(k, .integer 1)]
    let mark : Yaml := .tagged "t" (.string "a")
    ((keyed mark).EachMapping fun pairs => ∀ p ∈ pairs, p.1.untagged.isCollection = false) ∧
      (ofYaml (keyed mark) .start).1 = .error ⟨mark⟩ ∧
      ((keyed .null).EachMapping fun pairs => ∀ p ∈ pairs, p.1.untagged.isCollection = false) ∧
      (ofYaml (keyed .null) .start).1 = .error ⟨.null⟩ := by
  refine ⟨?_, rfl, ?_, rfl⟩ <;> simp [Yaml.untagged, Yaml.isCollection]

end Conform.Term
