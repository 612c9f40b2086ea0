import Conform.Proofs.Attempt
import Conform.Proofs.LexicalPath
import Conform.Proofs.Net.Address
import Conform.Proofs.Text.Blank
import Conform.Proofs.TokenList
import Conform.Tag.Validation

/-!
# Canonical terms

The terms that stand for a type. Validation against a tag gives canonical terms only, and passes
them as they are, apart from token lists and the two Base64 tags, which read their input as text and
give something else.

What a tag accepts is told by one `exists_of_*` lemma for each family of tags, the integers among
them being told apart by `integers?` alone. Both directions are assembled from these.
-/

namespace Conform.Tag

open Conform.Text

/-- The text of a host: not empty, no blanks, no upper case. -/
def IsHost (cs : List Char) : Prop :=
  cs ≠ [] ∧ ∀ c ∈ cs, Net.HostChar c

/-- A byte of the ASCII upper case. -/
def IsUpperByte (b : UInt8) : Prop :=
  65 ≤ b ∧ b ≤ 90

/-- The terms that a tag's values come to. -/
def Canonical : Tag → Term → Prop
  | .any, _ => True
  | .atom, t => ∃ s, t = .atom s
  | .enumeration members, t => ∃ m ∈ members, t = .atom m
  | .boolean, t => ∃ b, t = .boolean b
  | .integer, t => ∃ i, t = .integer i
  | .nonnegative, t => ∃ i, t = .integer i ∧ 0 ≤ i
  | .positive, t => ∃ i, t = .integer i ∧ 1 ≤ i
  | .range low high, t =>
    ∃ i, t = .integer i ∧ (∀ l, low = some l → l ≤ i) ∧ ∀ h, high = some h → i ≤ h
  | .oneOfIntegers members, t => ∃ i ∈ members, t = .integer i
  | .float, t => ∃ x, t = .float x
  | .string, t => ∃ s, t = .string s
  | .binary, t => ∃ bytes, t = .binary bytes
  | .lowerBinary, t => ∃ bytes, t = .binary bytes ∧ ∀ b ∈ bytes, ¬IsUpperByte b
  | .host, t => ∃ cs, t = .string (String.ofList cs) ∧ IsHost cs
  | .host6, t => ∃ cs, t = .string (String.ofList cs) ∧ IsHost cs ∧ Net.Address.readV6? cs = none
  | .address, t => ∃ a, t = .address a
  | .network, t => ∃ n, t = .network n
  | .port, t => ∃ i, t = .integer i ∧ 0 ≤ i ∧ i ≤ 65535
  | .email, t => ∃ s, t = .string s ∧ s.toList.count '@' = 1
  | .uri, t => ∃ u, t = .uri u
  | .tokens, t =>
    ∃ tokens : List String, t = .list (tokens.map .string) ∧ ∀ s ∈ tokens, TokenList.IsToken s
  | .path, t => ∃ cs, t = .string (String.ofList cs) ∧ LexicalPath.Normal cs
  | .base64, t => ∃ bytes, t = .binary bytes
  | .base64Url, t => ∃ bytes, t = .binary bytes
  | .function arity, t => ∃ f, t = .function f ∧ f.arity = arity
  | .logLevel, t => ∃ i, t = .integer i ∧ 0 ≤ i ∧ i ≤ 8
  | .map, t => t.isMapShaped = true
  | .timestamp precision, t => ∃ ts, t = .timestamp ts ∧ ts.precision = precision

/-! ## Parts of validation -/

theorem eq_some_of_demand {o : Option Term} {e : Mismatch} {t : Term}
    (h : (match o with | some t => Except.ok t | none => .error e) = .ok t) : o = some t := by
  cases o <;> cases h
  rfl

theorem exists_text_of_reading {o : Option String} {e : Mismatch} {t : Term}
    {read : String → Except Mismatch Term}
    (h : (match o with | some s => read s | none => .error e) = .ok t) :
    ∃ s, o = some s ∧ read s = .ok t := by
  cases o with
  | none => cases h
  | some s => exact ⟨s, rfl, h⟩

theorem exists_of_bind_map {α β : Type} {o : Option α} {f : α → Option β} {g : β → Term} {t : Term}
    (h : (o.bind fun a => (f a).map g) = some t) : ∃ a b, o = some a ∧ f a = some b ∧ g b = t := by
  obtain ⟨a, ha, h⟩ := Option.bind_eq_some_iff.1 h
  obtain ⟨b, hb, h⟩ := Option.map_eq_some_iff.1 h
  exact ⟨a, b, ha, hb, h⟩

theorem exists_of_mapError {α ε : Type} {r : Except ε α} {f : α → Term} {g : ε → Mismatch} {t : Term}
    (h : (r.map f).mapError g = .ok t) : ∃ a, r = .ok a ∧ f a = t :=
  Attempt.map_eq_ok.1 (Attempt.mapError_eq_ok.1 h)

theorem within_iff {low high : Option Int64} {i : Int64} :
    within low high i = true ↔ (∀ l, low = some l → l ≤ i) ∧ ∀ h, high = some h → i ≤ h := by
  cases low <;> cases high <;> simp [within]

theorem not_upperByte_lowerByte (b : UInt8) : ¬IsUpperByte (lowerByte b) := by
  rw [IsUpperByte, lowerByte]
  split
  · rename_i upper
    have low : 65 ≤ b.toNat := UInt8.le_iff_toNat_le.1 upper.1
    have high : b.toNat ≤ 90 := UInt8.le_iff_toNat_le.1 upper.2
    rintro ⟨-, h⟩
    have := UInt8.le_iff_toNat_le.1 h
    rw [UInt8.toNat_add] at this
    have : (b.toNat + 32) % 256 ≤ 90 := this
    omega
  · assumption

/-- A host that is read is the string of the term, trimmed and in lower case, and it `IsHost`. -/
theorem isHost_of_host {raw : Term} {s : String} (h : raw.host? = some s) :
    ∃ cs, s = String.ofList ((trim cs).map lowerAscii) ∧ raw.string? = some (String.ofList cs) ∧
      IsHost ((trim cs).map lowerAscii) := by
  obtain ⟨u, hu, h⟩ := Option.bind_eq_some_iff.1 h
  dsimp only at h
  split at h
  · cases h
  · rename_i ok
    obtain ⟨text, clean⟩ := not_or.1 ok
    refine ⟨u.toList, (Option.some.inj h).symm, by rw [String.ofList_toList]; exact hu,
      fun e => text (List.isEmpty_iff.2 e), fun c hc => ⟨?_, ?_⟩⟩
    · exact Bool.eq_false_iff.2 fun blank => clean (List.any_eq_true.2 ⟨c, hc, blank⟩)
    · obtain ⟨d, -, rfl⟩ := List.mem_map.1 hc
      exact not_upper_lowerAscii d

/-- The text of a version 6 address in brackets. -/
theorem isHost_bracketed (a : Net.Address) : IsHost ('[' :: (a.text.toList ++ [']'])) := by
  refine ⟨List.cons_ne_nil _ _, fun c hc => ?_⟩
  rcases List.mem_cons.1 hc with rfl | hc
  · decide
  · rcases List.mem_append.1 hc with hc | hc
    · exact Net.Address.hostChar_text a c hc
    · obtain rfl := List.mem_singleton.1 hc
      decide

theorem isToken_of_readTokens {s : String} {tokens : List String} (h : readTokens s = .ok tokens) :
    ∀ t ∈ tokens, TokenList.IsToken t := by
  cases hr : TokenList.read s.toList with
  | error e => rw [readTokens, hr] at h; cases h
  | ok read =>
    rw [readTokens, hr] at h
    cases h
    exact TokenList.isToken_of_read hr

theorem precision_of_readTimestamp {p : Time.Precision} {s : String} {ts : Time.Timestamp}
    (h : readTimestamp p s = .ok ts) : ts.precision = p := by
  unfold readTimestamp Time.Timestamp.ofText at h
  split at h <;> cases h
  rfl

theorem precision_of_countTimestamp {p : Time.Precision} {n : Int64} {ts : Time.Timestamp}
    (h : countTimestamp p n = .ok ts) : ts.precision = p := by
  unfold countTimestamp Time.Timestamp.ofCount at h
  split at h <;> cases h
  rfl

/-! ## Tags of integers -/

section Families

variable {symbols : SymbolTable} {tag : Tag} {raw t : Term} {accepts : Int64 → Bool}

/-- What a tag of integers asks of an integer. -/
def integers? : Tag → Option (Int64 → Bool)
  | .integer => some fun _ => true
  | .nonnegative => some (within (some 0) none)
  | .positive => some (within (some 1) none)
  | .range low high => some (within low high)
  | .port => some (within (some 0) (some 65535))
  | .oneOfIntegers members => some members.contains
  | _ => none

/-- A tag of integers takes the integer of a term by `integerWhere?`, and does nothing else. -/
theorem validate_integers (h : tag.integers? = some accepts) (symbols : SymbolTable) (raw : Term) :
    tag.validate symbols raw = (integerWhere? raw accepts).elim (.error (.expected tag raw)) .ok := by
  cases tag with
  | integer | nonnegative | positive | range | port | oneOfIntegers =>
    obtain rfl := Option.some.inj h
    unfold validate
    dsimp only
    cases integerWhere? raw _ <;> rfl
  | _ => cases h

/-- The `Canonical` terms of a tag of integers are the integers that it asks for. -/
theorem canonical_integers_iff (h : tag.integers? = some accepts) :
    tag.Canonical t ↔ ∃ i, t = .integer i ∧ accepts i = true := by
  cases tag with
  | integer | nonnegative | positive | range | port =>
    obtain rfl := Option.some.inj h
    simp [Canonical, within_iff]
  | oneOfIntegers =>
    obtain rfl := Option.some.inj h
    simp [Canonical, and_comm]
  | _ => cases h

/-- What a tag of the integer family accepts is read as an integer that passes the family's test. -/
theorem exists_of_integers (h : tag.integers? = some accepts)
    (valid : tag.validate symbols raw = .ok t) :
    ∃ i, raw.integer? = some i ∧ accepts i = true ∧ t = .integer i := by
  rw [validate_integers h] at valid
  cases found : integerWhere? raw accepts with
  | none =>
    rw [found] at valid
    cases valid
  | some u =>
    rw [found] at valid
    obtain rfl := Except.ok.inj valid
    obtain ⟨i, taken, rfl⟩ := Option.map_eq_some_iff.1 found
    obtain ⟨read, accepted⟩ := Option.filter_eq_some_iff.1 taken
    exact ⟨i, read, accepted, rfl⟩

/-! ## Tags that pass terms of their own kind

Each of them has one kind of term, which passes as it is. Any other term has to have a text, from which the
tag reads a term of the kind. -/

/-- `Tag.atom` gives the symbol that it was given, or the one of the text, which exists. -/
theorem exists_of_atom (h : Tag.atom.validate symbols raw = .ok t) : ∃ a, t = .atom a ∧
    (raw = .atom a ∨ ∃ s, raw.text? = some s ∧ symbols.existing? s = some a) := by
  unfold validate at h
  dsimp only at h
  split at h
  · rename_i a
    cases h
    exact ⟨a, rfl, .inl rfl⟩
  · obtain ⟨s, a, text, existing, rfl⟩ := exists_of_bind_map (eq_some_of_demand h)
    exact ⟨a, rfl, .inr ⟨s, text, existing⟩⟩

/-- What `address` accepts is an address, or a text that reads as one. -/
theorem exists_of_address (h : Tag.address.validate symbols raw = .ok t) : ∃ a, t = .address a ∧
    (raw = .address a ∨ ∃ s, raw.text? = some s ∧ Net.Address.read? (trim s.toList) = some a) := by
  unfold validate at h
  dsimp only at h
  split at h
  · rename_i a
    cases h
    exact ⟨a, rfl, .inl rfl⟩
  · obtain ⟨s, a, text, read, rfl⟩ := exists_of_bind_map (eq_some_of_demand h)
    exact ⟨a, rfl, .inr ⟨s, text, read⟩⟩

/-- `Tag.network` gives the network that it was given, or what `Net.Network.read?` makes of the text. -/
theorem exists_of_network (h : Tag.network.validate symbols raw = .ok t) : ∃ n, t = .network n ∧
    (raw = .network n ∨ ∃ s, raw.text? = some s ∧ Net.Network.read? (trim s.toList) = some n) := by
  unfold validate at h
  dsimp only at h
  split at h
  · rename_i n
    cases h
    exact ⟨n, rfl, .inl rfl⟩
  · obtain ⟨s, n, text, read, rfl⟩ := exists_of_bind_map (eq_some_of_demand h)
    exact ⟨n, rfl, .inr ⟨s, text, read⟩⟩

/-- What `uri` accepts is a URI, or a text that `readUri` reads. -/
theorem exists_of_uri (h : Tag.uri.validate symbols raw = .ok t) : ∃ u, t = .uri u ∧
    (raw = .uri u ∨ ∃ s, raw.text? = some s ∧ readUri s = .ok u) := by
  unfold validate at h
  dsimp only at h
  split at h
  · rename_i u
    cases h
    exact ⟨u, rfl, .inl rfl⟩
  · obtain ⟨s, text, h⟩ := exists_text_of_reading h
    obtain ⟨u, read, rfl⟩ := exists_of_mapError h
    exact ⟨u, rfl, .inr ⟨s, text, read⟩⟩

/-- What `logLevel` accepts is a level by its number or its name. -/
theorem exists_of_logLevel (h : Tag.logLevel.validate symbols raw = .ok t) : ∃ i, t = .integer i ∧
    (raw = .integer i ∧ 0 ≤ i ∧ i ≤ 8 ∨ ∃ l ∈ logLevels, raw.text? = some l.1 ∧ l.2 = i) := by
  unfold validate at h
  dsimp only at h
  split at h
  · split at h
    · rename_i i bounds
      cases h
      exact ⟨i, rfl, .inl ⟨rfl, bounds⟩⟩
    · cases h
  · obtain ⟨s, l, text, found, rfl⟩ := exists_of_bind_map (eq_some_of_demand h)
    obtain rfl : l.1 = s := by simpa using List.find?_some found
    exact ⟨l.2, rfl, .inr ⟨l, List.mem_of_find?_eq_some found, text, rfl⟩⟩

/-- `Tag.timestamp` gives a timestamp of its precision that it was given, one of a count, or one of a
text. -/
theorem exists_of_timestamp {p : Time.Precision} (h : (Tag.timestamp p).validate symbols raw = .ok t) :
    ∃ ts, t = .timestamp ts ∧ (raw = .timestamp ts ∧ ts.precision = p ∨
      (∃ n, raw = .integer n ∧ countTimestamp p n = .ok ts) ∨
      ∃ s, raw.text? = some s ∧ readTimestamp p s = .ok ts) := by
  unfold validate at h
  dsimp only at h
  split at h
  · split at h
    · rename_i ts same
      cases h
      exact ⟨ts, rfl, .inl ⟨rfl, same⟩⟩
    · cases h
  · split at h
    · rename_i n _
      obtain ⟨ts, counted, rfl⟩ := exists_of_mapError h
      exact ⟨ts, rfl, .inr (.inl ⟨n, rfl, counted⟩)⟩
    · obtain ⟨s, text, h⟩ := exists_text_of_reading h
      obtain ⟨ts, read, rfl⟩ := exists_of_mapError h
      exact ⟨ts, rfl, .inr (.inr ⟨s, text, read⟩)⟩

/-! ## Tags that read a text in their own way -/

/-- What an enumeration accepts has the text of a member, and becomes that member. -/
theorem exists_of_enumeration {members : List Symbol}
    (h : (Tag.enumeration members).validate symbols raw = .ok t) :
    ∃ m ∈ members, t = .atom m ∧ raw.text? = some m.name := by
  obtain ⟨s, text, h⟩ := exists_text_of_reading h
  split at h
  · rename_i m found
    cases h
    obtain rfl : m.name = s := by simpa using List.find?_some found
    exact ⟨m, List.mem_of_find?_eq_some found, rfl, text⟩
  · cases h

/-- A version 6 address stands in brackets; any other host must not be one. -/
theorem canonical_of_host6 (h : Tag.host6.validate symbols raw = .ok t) : Tag.host6.Canonical t := by
  unfold validate at h
  dsimp only at h
  split at h
  · rename_i a _
    cases h
    refine ⟨'[' :: (a.text.toList ++ [']']), ?_, isHost_bracketed a, Net.Address.readV6_bracket _⟩
    congr 1
    rw [← String.toList_inj, String.toList_ofList]
    simp
  · rename_i unread
    obtain ⟨s, hs, rfl⟩ := Option.map_eq_some_iff.1 (eq_some_of_demand h)
    obtain ⟨cs, rfl, string, host⟩ := isHost_of_host hs
    rw [string] at unread
    refine ⟨_, rfl, host, ?_⟩
    rw [Net.Address.readV6_lowerAscii]
    simpa using unread

/-- What `function` accepts is a function of that arity. -/
theorem exists_of_function {arity : UInt8} (h : (Tag.function arity).validate symbols raw = .ok t) :
    ∃ f, t = .function f ∧ raw = .function f ∧ f.arity = arity := by
  unfold validate at h
  dsimp only at h
  split at h
  · split at h
    · rename_i f same
      cases h
      exact ⟨f, rfl, rfl, same⟩
    · cases h
  · cases h

end Families

/-! ## Validated terms are canonical -/

/-- Validation gives canonical terms. -/
theorem canonical_of_validate {symbols : SymbolTable} {tag : Tag} {raw t : Term}
    (h : tag.validate symbols raw = .ok t) : tag.Canonical t := by
  cases tag with
  | any => trivial
  | integer | nonnegative | positive | range | port | oneOfIntegers =>
    obtain ⟨i, -, accepted, rfl⟩ := exists_of_integers rfl h
    exact (canonical_integers_iff rfl).2 ⟨i, rfl, accepted⟩
  | atom =>
    obtain ⟨a, rfl, -⟩ := exists_of_atom h
    exact ⟨a, rfl⟩
  | address =>
    obtain ⟨a, rfl, -⟩ := exists_of_address h
    exact ⟨a, rfl⟩
  | network =>
    obtain ⟨n, rfl, -⟩ := exists_of_network h
    exact ⟨n, rfl⟩
  | uri =>
    obtain ⟨u, rfl, -⟩ := exists_of_uri h
    exact ⟨u, rfl⟩
  | logLevel =>
    obtain ⟨i, rfl, ⟨-, bounds⟩ | ⟨l, member, -, rfl⟩⟩ := exists_of_logLevel h
    · exact ⟨i, rfl, bounds⟩
    · have levels : ∀ l ∈ logLevels, 0 ≤ l.2 ∧ l.2 ≤ 8 := by decide
      exact ⟨l.2, rfl, levels l member⟩
  | timestamp precision =>
    obtain ⟨ts, rfl, ⟨-, same⟩ | ⟨n, -, counted⟩ | ⟨s, -, read⟩⟩ := exists_of_timestamp h
    · exact ⟨ts, rfl, same⟩
    · exact ⟨ts, rfl, precision_of_countTimestamp counted⟩
    · exact ⟨ts, rfl, precision_of_readTimestamp read⟩
  | function arity =>
    obtain ⟨f, rfl, -, same⟩ := exists_of_function h
    exact ⟨f, rfl, same⟩
  | map =>
    unfold validate at h
    dsimp only at h
    split at h
    · cases h
      assumption
    · cases h
  | enumeration members =>
    obtain ⟨m, member, rfl, -⟩ := exists_of_enumeration h
    exact ⟨m, member, rfl⟩
  | boolean | float | string | binary =>
    obtain ⟨value, -, rfl⟩ := Option.map_eq_some_iff.1 (eq_some_of_demand h)
    exact ⟨value, rfl⟩
  | lowerBinary =>
    obtain ⟨bytes, -, rfl⟩ := Option.map_eq_some_iff.1 (eq_some_of_demand h)
    refine ⟨bytes.map lowerByte, rfl, fun b hb => ?_⟩
    obtain ⟨c, -, rfl⟩ := List.mem_map.1 hb
    exact not_upperByte_lowerByte c
  | host =>
    obtain ⟨s, hs, rfl⟩ := Option.map_eq_some_iff.1 (eq_some_of_demand h)
    obtain ⟨cs, rfl, -, host⟩ := isHost_of_host hs
    exact ⟨_, rfl, host⟩
  | host6 => exact canonical_of_host6 h
  | email =>
    obtain ⟨s, hs, rfl⟩ := Option.map_eq_some_iff.1 (eq_some_of_demand h)
    exact ⟨s, rfl, beq_iff_eq.1 (Option.filter_eq_some_iff.1 hs).2⟩
  | tokens =>
    obtain ⟨s, -, h⟩ := exists_text_of_reading h
    obtain ⟨tokens, read, rfl⟩ := exists_of_mapError h
    exact ⟨tokens, rfl, isToken_of_readTokens read⟩
  | path =>
    obtain ⟨_, cs, -, normalized, rfl⟩ := exists_of_bind_map (eq_some_of_demand h)
    exact ⟨cs, rfl, LexicalPath.normal_of_normalize normalized⟩
  | base64 | base64Url =>
    obtain ⟨s, -, h⟩ := exists_text_of_reading h
    obtain ⟨bytes, -, rfl⟩ := exists_of_mapError h
    exact ⟨bytes, rfl⟩

/-! ## Canonical terms are passed -/

/-- A tag that takes its own values; those of the other three are read from text. -/
def TakesItsOwn : Tag → Prop
  | .tokens | .base64 | .base64Url => False
  | _ => True

theorem integerWhere_integer {i : Int64} {accepts : Int64 → Bool} (h : accepts i = true) :
    integerWhere? (.integer i) accepts = some (.integer i) := by
  rw [integerWhere?, Term.integer?, Option.filter_some, if_pos h]
  rfl

theorem find_member {members : List Symbol} {m : Symbol} (h : m ∈ members) :
    members.find? (·.name == m.name) = some m := by
  cases found : members.find? (·.name == m.name) with
  | none => exact absurd (beq_self_eq_true m.name) (List.find?_eq_none.1 found m h)
  | some m' =>
    have same : (m'.name == m.name) = true :=
      List.find?_some (p := fun x : Symbol => x.name == m.name) found
    rw [beq_iff_eq] at same
    cases m
    cases m'
    exact congrArg (fun name => some (Symbol.mk name)) same

theorem map_lowerByte {bytes : List UInt8} (h : ∀ b ∈ bytes, ¬IsUpperByte b) :
    bytes.map lowerByte = bytes := by
  rw [← List.map_id bytes, List.map_map]
  exact List.map_congr_left fun b hb => if_neg (h b hb)

theorem string_string (s : String) : (Term.string s).string? = some s :=
  rfl

/-- The text of a host reads as itself. -/
theorem host_of_isHost {cs : List Char} (h : IsHost cs) :
    (Term.string (String.ofList cs)).host? = some (String.ofList cs) := by
  have trimmed : trim cs = cs := trim_of_no_blank fun c hc => (h.2 c hc).1
  have lowered : cs.map lowerAscii = cs := map_lowerAscii fun c hc => (h.2 c hc).2
  have clean : ¬(cs.isEmpty = true ∨ cs.any isBlank = true) := by
    rintro (empty | blank)
    · exact h.1 (List.isEmpty_iff.1 empty)
    · obtain ⟨c, hc, blank⟩ := List.any_eq_true.1 blank
      rw [(h.2 c hc).1] at blank
      cases blank
  rw [Term.host?, string_string, Option.bind_some]
  dsimp only
  rw [String.toList_ofList, trimmed, lowered, if_neg clean]

/-- An integer that passes the test is accepted as it is. -/
theorem validate_integer {tag : Tag} {accepts : Int64 → Bool} (h : tag.integers? = some accepts) {i : Int64}
    (accepted : accepts i = true) (symbols : SymbolTable) :
    tag.validate symbols (.integer i) = .ok (.integer i) := by
  rw [validate_integers h, integerWhere_integer accepted]
  rfl

/-- A member's atom is accepted as it is. -/
theorem validate_member_atom (symbols : SymbolTable) {members : List Symbol} {m : Symbol}
    (h : m ∈ members) : (Tag.enumeration members).validate symbols (.atom m) = .ok (.atom m) := by
  have text : (Term.atom m).text? = some m.name := rfl
  unfold validate
  dsimp only
  rw [text]
  dsimp only
  rw [find_member h]

/-- A host in small letters passes `Tag.host6` as it is unless it reads as a version 6 address. -/
theorem validate_host6 (symbols : SymbolTable) {cs : List Char} (host : IsHost cs)
    (unread : Net.Address.readV6? cs = none) : Tag.host6.validate symbols (.string (String.ofList cs))
      = .ok (.string (String.ofList cs)) := by
  have trimmed : trim cs = cs := trim_of_no_blank fun c hc => (host.2 c hc).1
  have none : ((Term.string (String.ofList cs)).string?.bind fun s =>
      Net.Address.readV6? (trim s.toList)) = none := by
    rw [string_string, Option.bind_some, String.toList_ofList, trimmed, unread]
  unfold validate
  dsimp only
  rw [none, host_of_isHost host]
  rfl

/-- A canonical term is the value that validation makes of it. -/
theorem validate_of_canonical {tag : Tag} (own : tag.TakesItsOwn) {t : Term} (h : tag.Canonical t)
    (symbols : SymbolTable) : tag.validate symbols t = .ok t := by
  cases tag with
  | any => rfl
  | atom | boolean | float | string | binary | address | network | uri =>
    obtain ⟨_, rfl⟩ := h
    rfl
  | integer | nonnegative | positive | range | port | oneOfIntegers =>
    obtain ⟨i, rfl, accepted⟩ := (canonical_integers_iff rfl).1 h
    exact validate_integer rfl accepted symbols
  | enumeration members =>
    obtain ⟨m, member, rfl⟩ := h
    exact validate_member_atom symbols member
  | lowerBinary =>
    obtain ⟨bytes, rfl, lower⟩ := h
    change Except.ok (Term.binary (bytes.map lowerByte)) = _
    rw [map_lowerByte lower]
  | host =>
    obtain ⟨cs, rfl, host⟩ := h
    unfold validate
    dsimp only
    rw [host_of_isHost host]
    rfl
  | host6 =>
    obtain ⟨cs, rfl, host, unread⟩ := h
    exact validate_host6 symbols host unread
  | email =>
    obtain ⟨s, rfl, one⟩ := h
    have kept : ((Term.string s).string?.filter fun s => s.toList.count '@' == 1) = some s := by
      rw [string_string, Option.filter_some, if_pos (beq_iff_eq.2 one)]
    unfold validate
    dsimp only
    rw [kept]
    rfl
  | path =>
    obtain ⟨cs, rfl, normal⟩ := h
    have text : (Term.string (String.ofList cs)).text? = some (String.ofList cs) := rfl
    unfold validate
    dsimp only
    rw [text, Option.bind_some, String.toList_ofList, LexicalPath.normalize_of_normal normal,
      Option.map_some]
  | function arity =>
    obtain ⟨f, rfl, same⟩ := h
    exact if_pos same
  | logLevel =>
    obtain ⟨i, rfl, bounds⟩ := h
    exact if_pos bounds
  | map => exact if_pos h
  | timestamp precision =>
    obtain ⟨ts, rfl, same⟩ := h
    exact if_pos same
  | tokens | base64 | base64Url => cases own

end Conform.Tag
