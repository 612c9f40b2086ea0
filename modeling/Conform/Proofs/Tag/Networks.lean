import Conform.Proofs.Net.Notation
import Conform.Proofs.Tag.Canonical
import Conform.Term.Json

/-!
# Networks of a tag

A network is proper if its address has bits for its length. What is read from a text is proper, and the
text of a network is read back if the network is proper and refused otherwise. The tag reads every text
that way, whatever the text is spelled as. A network that is there already passes as it is.
-/

namespace Conform

open Conform.Text

namespace Net.Network

/-- The address has bits for the length: 32 in version 4, 128 in version 6. -/
def Proper (n : Network) : Prop :=
  n.length.toNat ≤ n.address.width

instance (n : Network) : Decidable n.Proper :=
  inferInstanceAs (Decidable (_ ≤ _))

/-- A length that an address has bits for is a number of eight bits. -/
theorem toNat_length {length : Nat} {a : Address} (h : length ≤ a.width) :
    (UInt8.ofNat length).toNat = length := by
  have bound : a.width ≤ 128 := by cases a <;> simp [Address.width]
  rw [UInt8.toNat_ofNat']
  apply Nat.mod_eq_of_lt
  omega

/-- What is read is proper, with a length or without. -/
theorem proper_of_read {cs : List Char} {n : Network} (h : read? cs = some n) : n.Proper := by
  unfold read? at h
  split at h
  · obtain ⟨a, -, rfl⟩ := Option.map_eq_some_iff.1 h
    show (UInt8.ofNat a.width).toNat ≤ a.width
    exact Nat.le_of_eq (toNat_length (Nat.le_refl _))
  · obtain ⟨a, -, h⟩ := Option.bind_eq_some_iff.1 h
    obtain ⟨length, -, h⟩ := Option.bind_eq_some_iff.1 h
    split at h
    · rename_i room
      cases h
      show (UInt8.ofNat length).toNat ≤ a.width
      rwa [toNat_length room]
    · cases h

theorem toList_text (n : Network) :
    n.text.toList = n.address.text.toList ++ '/' :: Nat.toDigits 10 n.length.toNat := by
  simp [text, decimal, String.toList_append, String.toList_ofList]

/-- **The text of a network is read back if the network is proper,** and refused otherwise. -/
theorem read_text (n : Network) : read? n.text.toList = if n.Proper then some n else none := by
  -- No address has a slash in its text, so the first one stands before the length.
  have slash : '/' ∉ n.address.text.toList := fun mem =>
    absurd (Address.addressChar_text n.address _ mem) (by decide)
  rw [toList_text, read?, cut_append slash]
  dsimp only
  rw [Address.read_text, Option.bind_some, readUnsigned_toDigits (by decide) (by decide),
    Option.bind_some, UInt8.ofNat_toNat]
  rfl

theorem no_blank_text (n : Network) : ∀ c ∈ n.text.toList, isBlank c = false := by
  intro c hc
  rw [toList_text, List.mem_append, List.mem_cons] at hc
  rcases hc with address | rfl | digit
  · exact (Address.hostChar_text _ c address).1
  · decide
  · exact (Address.hostChar_of_addressChar
      (Address.addressChar_toDigits (by decide) (by decide) c digit)).1

end Net.Network

namespace Tag

open Net (Network)

variable {symbols : SymbolTable} {raw t : Term}

/-- A network is read from a text, and `Net.Network.Proper` for it, or it was there before. -/
theorem exists_network (h : Tag.network.validate symbols raw = .ok t) :
    ∃ n : Network, t = .network n ∧ (n.Proper ∨ raw = .network n) := by
  obtain ⟨n, rfl, given | ⟨s, -, read⟩⟩ := exists_of_network h
  · exact ⟨n, rfl, .inr given⟩
  · exact ⟨n, rfl, .inl (Network.proper_of_read read)⟩

/-- A typed network is accepted as it is, whatever its length. -/
theorem validate_network (symbols : SymbolTable) (n : Network) :
    Tag.network.validate symbols (.network n) = .ok (.network n) :=
  rfl

/-- The tag takes the text of a proper network, and refuses that of another. -/
theorem validate_network_text (symbols : SymbolTable) (n : Network) :
    Tag.network.validate symbols (.string n.text) =
      if n.Proper then .ok (.network n) else .error (.expected .network (.string n.text)) := by
  have text : (Term.string n.text).text? = some n.text := rfl
  unfold validate
  dsimp only
  rw [text, Option.bind_some, trim_of_no_blank n.no_blank_text, Network.read_text]
  by_cases proper : n.Proper
  · rw [if_pos proper, if_pos proper]
    rfl
  · rw [if_neg proper, if_neg proper]
    rfl

/-- **Networks are proper, unless an improper one was given.** What the tag accepts is a network. It is
proper, and its text in JSON is accepted as the same network, if and only if the raw term was no improper
network; such a network passes as it is, and its text is refused. -/
theorem networks_proper_unless_given (symbols : SymbolTable) (raw : Term) :
    (∀ t, Tag.network.validate symbols raw = .ok t →
      ∃ n : Network, t = .network n ∧ (n.Proper ↔ ∀ given, raw = .network given → given.Proper) ∧
        t.toJson = .string n.text ∧ ∀ later, Tag.network.validate later (.string n.text) =
          if n.Proper then .ok t else .error (.expected .network (.string n.text))) ∧
    ∀ given, raw = .network given → Tag.network.validate symbols raw = .ok raw := by
  constructor
  · intro t valid
    obtain ⟨n, rfl, made⟩ := exists_network valid
    refine ⟨n, rfl, ⟨?_, ?_⟩, rfl, fun later => validate_network_text later n⟩
    · rintro proper given rfl
      rw [validate_network] at valid
      cases valid
      exact proper
    · intro proper
      rcases made with read | given
      · exact read
      · exact proper n given
  · rintro given rfl
    exact validate_network symbols given

/-- The bytes of an address with blanks around it, which is a network of its own. -/
theorem networks_proper_unless_given_loopback : ∃ n : Network,
    Tag.network.validate .empty (.binary (Utf8.encode " ::1\n".toList)) = .ok (.network n) ∧
    n.length = 128 ∧ n.Proper ∧
    ∀ later, Tag.network.validate later (.string n.text) = .ok (.network n) := by
  have valid : Tag.network.validate .empty (.binary (Utf8.encode " ::1\n".toList))
      = .ok (.network ⟨.v6 #v[0, 0, 0, 0, 0, 0, 0, 1], 128⟩) := by rfl
  obtain ⟨n, same, proper, -, again⟩ := (networks_proper_unless_given _ _).1 _ valid
  cases same
  have good := proper.2 (by simp)
  refine ⟨_, valid, rfl, good, fun later => ?_⟩
  rw [again, if_pos good]

/-- A network of version 4 with 33 bits passes, and its text is refused. -/
theorem improper_network_passes : ∃ n : Network, n.text = "10.0.0.0/33" ∧ ¬n.Proper ∧
    ∀ symbols, Tag.network.validate symbols (.network n) = .ok (.network n) ∧
      Tag.network.validate symbols (.string n.text)
        = .error (.expected .network (.string "10.0.0.0/33")) :=
  ⟨⟨.v4 #v[10, 0, 0, 0], 33⟩, by rfl, by decide, fun _ => ⟨rfl, by rfl⟩⟩

end Tag

end Conform
