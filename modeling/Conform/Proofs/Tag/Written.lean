import Conform.Proofs.Net.Notation
import Conform.Proofs.Tag.Canonical
import Conform.Proofs.Term.Written

/-!
# Canonical terms that have been written

Of most tags a value comes back from JSON as it was, and it is taken again because it is canonical. A
symbol comes back as its name and an address as its text. Their tags read these, and find the symbol, if
it exists, and the address.
-/

namespace Conform.Tag

open Conform.Text

/-- A tag whose values are found again in what JSON leaves of them. -/
def Reloads : Tag → Prop
  | .atom | .enumeration _ | .boolean => True
  | .integer | .nonnegative | .positive | .range _ _ | .oneOfIntegers _ | .port | .logLevel => True
  | .float | .string | .host | .host6 | .address | .email | .path => True
  | _ => False

theorem Reloads.takesItsOwn {tag : Tag} (h : tag.Reloads) : tag.TakesItsOwn := by
  cases tag with
  | tokens | base64 | base64Url => exact h.elim
  | _ => trivial

/-- The symbol of a name: the one that was given, or one that exists. -/
theorem exists_atom {symbols : SymbolTable} {raw t : Term}
    (h : Tag.atom.validate symbols raw = .ok t) (known : ∀ a, raw = .atom a → a ∈ symbols.symbols) :
    ∃ a ∈ symbols.symbols, t = .atom a := by
  obtain ⟨a, rfl, given | ⟨s, -, existing⟩⟩ := exists_of_atom h
  · exact ⟨a, known a given, rfl⟩
  · exact ⟨a, (SymbolTable.existing?_eq_some_iff.1 existing).2, rfl⟩

/-- The name of a symbol that exists is accepted as it. -/
theorem validate_name {symbols : SymbolTable} {a : Symbol} (h : a ∈ symbols.symbols) :
    Tag.atom.validate symbols (.string a.name) = .ok (.atom a) := by
  have existing : symbols.existing? a.name = some a :=
    SymbolTable.existing?_eq_some_iff.2 ⟨rfl, h⟩
  have text : (Term.string a.name).text? = some a.name := rfl
  unfold validate
  dsimp only
  rw [text, Option.bind_some, existing]
  rfl

/-- The name of a member is accepted as the member, whether or not it is a symbol. -/
theorem validate_member (symbols : SymbolTable) {members : List Symbol} {m : Symbol}
    (h : m ∈ members) :
    (Tag.enumeration members).validate symbols (.string m.name) = .ok (.atom m) := by
  have text : (Term.string m.name).text? = some m.name := rfl
  unfold validate
  dsimp only
  rw [text]
  dsimp only
  rw [find_member h]

theorem validate_address (symbols : SymbolTable) (a : Net.Address) :
    Tag.address.validate symbols (.string a.text) = .ok (.address a) := by
  have trimmed : trim a.text.toList = a.text.toList :=
    trim_of_no_blank fun c hc => (Net.Address.hostChar_text a c hc).1
  have text : (Term.string a.text).text? = some a.text := rfl
  unfold validate
  dsimp only
  rw [text, Option.bind_some, trimmed, Net.Address.read_text]
  rfl

/-- Of the other tags of this kind a value comes back as it was. -/
theorem written_of_canonical {tag : Tag} (reloads : tag.Reloads) (atom : tag ≠ .atom)
    (enumeration : ∀ members, tag ≠ .enumeration members) (address : tag ≠ .address) {t : Term}
    (h : tag.Canonical t) : t.written = t := by
  cases tag with
  | atom => exact absurd rfl atom
  | enumeration members => exact absurd rfl (enumeration members)
  | address => exact absurd rfl address
  | boolean | integer | float | string => obtain ⟨_, rfl⟩ := h; rfl
  | nonnegative | positive | range | port | logLevel | email | host | host6 | path =>
    obtain ⟨_, rfl, -⟩ := h
    rfl
  | oneOfIntegers => obtain ⟨_, -, rfl⟩ := h; rfl
  | _ => exact reloads.elim

/-- **A validated value is validated to itself when it has been written and read back.** -/
theorem validate_written {tag : Tag} (reloads : tag.Reloads) {symbols : SymbolTable} {raw t : Term}
    (h : tag.validate symbols raw = .ok t) (known : ∀ a, raw = .atom a → a ∈ symbols.symbols) :
    tag.validate symbols t.written = .ok t := by
  have canonical := canonical_of_validate h
  cases tag with
  | atom =>
    obtain ⟨a, ha, rfl⟩ := exists_atom h known
    exact validate_name ha
  | enumeration members =>
    obtain ⟨m, hm, rfl⟩ := canonical
    exact validate_member symbols hm
  | address =>
    obtain ⟨a, rfl⟩ := canonical
    exact validate_address symbols a
  | _ =>
    rw [written_of_canonical reloads nofun nofun nofun canonical]
    exact validate_of_canonical reloads.takesItsOwn canonical symbols

/-- These values have no keys in them. -/
theorem textKeys_of_canonical {tag : Tag} (reloads : tag.Reloads) {t : Term} (h : tag.Canonical t) :
    t.textKeys = t := by
  cases tag with
  | atom | boolean | integer | float | string | address => obtain ⟨_, rfl⟩ := h; rfl
  | nonnegative | positive | range | port | logLevel | email | host | host6 | path =>
    obtain ⟨_, rfl, -⟩ := h
    rfl
  | enumeration | oneOfIntegers => obtain ⟨_, -, rfl⟩ := h; rfl
  | _ => exact reloads.elim

end Conform.Tag
