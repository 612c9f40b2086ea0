import Conform.Proofs.Tag.Forms
import Conform.Proofs.Tag.Written

/-!
# Bytes that have been written

Bytes that are a text are written as the text, and come back as they were. Others are written as an array
of numbers, which is a list of integers when it is read. Such a list is a text if all its integers are codes
of characters that texts have: then the tag of bytes takes it for the bytes of that text, and these are
others than those that were written. Any other list it refuses.
-/

namespace Conform

open Conform.Text

namespace Term

/-! ## Bytes as codes -/

/-- The text whose characters have the bytes for their codes. -/
def byCodes (bytes : List UInt8) : String :=
  String.ofList (bytes.map fun b => Char.ofNat b.toNat)

theorem codes_byCodes (bytes : List UInt8) :
    codes (byCodes bytes) = bytes.map fun b => .integer (Int64.ofNat b.toNat) := by
  simp [codes, byCodes, Utf8.toNat_ofByte]

/-- Bytes read one by one are a printable text iff there are some and each is an `IsTextCode`. -/
theorem printable_byCodes_iff {bytes : List UInt8} :
    Printable (byCodes bytes) ↔ bytes ≠ [] ∧ ∀ b ∈ bytes, IsTextCode b.toNat := by
  have nonempty : byCodes bytes ≠ "" ↔ bytes ≠ [] := by simp [byCodes]
  have printable : (∀ c ∈ (byCodes bytes).toList, isTextChar c = true) ↔
      ∀ b ∈ bytes, IsTextCode b.toNat := by
    simp [byCodes, isTextChar_iff, Utf8.toNat_ofByte]
  constructor
  · rintro ⟨some, each⟩
    exact ⟨nonempty.1 some, printable.1 each⟩
  · rintro ⟨some, each⟩
    exact ⟨nonempty.2 some, printable.2 each⟩

/-- A list of code points that is a text is that of a printable text. -/
theorem printable_of_isCharList {s : String} (h : isCharList (codes s) = true) : Printable s := by
  obtain ⟨ne, each⟩ := isCharList_iff.1 h
  refine ⟨?_, fun c hc => ?_⟩
  · rintro rfl
    exact ne rfl
  · obtain ⟨i, same, code⟩ := each _ (List.mem_map_of_mem hc)
    have char := charOf?_code c
    rw [same] at char
    rw [isTextChar_iff, ← charOf?_eq_some_iff.1 char]
    exact code

/-! ## What comes back -/

/-- Bytes that are no text, but each of them the code of a character that texts have. -/
def SpellsText (bytes : List UInt8) : Prop :=
  Utf8.decode bytes = none ∧ ∀ b ∈ bytes, IsTextCode b.toNat

instance (bytes : List UInt8) : Decidable (SpellsText bytes) :=
  inferInstanceAs (Decidable (_ ∧ _))

/-- What bytes are taken for after they have been written: themselves if they are a text, those of the text
that they spell if they spell one, and nothing otherwise. -/
def reread? (bytes : List UInt8) : Option (List UInt8) :=
  if (Utf8.decode bytes).isSome then some bytes
  else if SpellsText bytes then some (Utf8.encode (byCodes bytes).toList)
  else none

theorem written_of_text {bytes : List UInt8} {cs : List Char} (h : Utf8.decode bytes = some cs) :
    (Term.binary bytes).written = .string (String.ofList cs) := by
  rw [written, h]

theorem written_of_no_text {bytes : List UInt8} (h : Utf8.decode bytes = none) :
    (Term.binary bytes).written = .list (codes (byCodes bytes)) := by
  rw [written, h, codes_byCodes]

/-- The list of a text's codes reads as the text's bytes, unless it does not read as text at all. -/
theorem bytes?_codes (s : String) (ne : codes s ≠ []) :
    (Term.list (codes s)).bytes? = if isCharList (codes s) then some (Utf8.encode s.toList) else none := by
  have text : (Term.list (codes s)).string? = (Term.list (codes s)).text? := by
    obtain ⟨t, ts, cons⟩ := List.exists_cons_of_ne_nil ne
    rw [cons]
    rfl
  change (Term.list (codes s)).string?.map _ = _
  rw [text]
  by_cases chars : isCharList (codes s) = true
  · rw [text?_codes (printable_of_isCharList chars), if_pos chars]
    rfl
  · rw [text?, if_neg chars, if_neg chars]
    rfl

/-- **What bytes are taken for after they have been written.** -/
theorem bytes?_written (bytes : List UInt8) : (Term.binary bytes).written.bytes? = reread? bytes := by
  unfold reread?
  cases text : Utf8.decode bytes with
  | some cs =>
    have same : (Term.string (String.ofList cs)).bytes? = some (Utf8.encode cs) :=
      congrArg (fun cs => some (Utf8.encode cs)) String.toList_ofList
    rw [written_of_text text, same, Utf8.encode_of_decode text]
    rfl
  | none =>
    have nonempty : bytes ≠ [] := by
      rintro rfl
      cases text
    have codesNonempty : codes (byCodes bytes) ≠ [] := by simpa [codes_byCodes] using nonempty
    have spells : isCharList (codes (byCodes bytes)) = true ↔ SpellsText bytes := by
      constructor
      · intro chars
        exact ⟨text, (printable_byCodes_iff.1 (printable_of_isCharList chars)).2⟩
      · intro spells
        exact isCharList_codes (printable_byCodes_iff.2 ⟨nonempty, spells.2⟩)
    rw [written_of_no_text text, bytes?_codes _ codesNonempty]
    simp only [spells]
    rfl

/-- Bytes come back as others if and only if they spell a text. -/
theorem reread?_differs_iff (bytes : List UInt8) :
    (∃ others, reread? bytes = some others ∧ others ≠ bytes) ↔ SpellsText bytes := by
  unfold reread?
  constructor
  · rintro ⟨others, back, differ⟩
    split at back
    · exact absurd (Option.some.inj back).symm differ
    · split at back
      · assumption
      · cases back
  · intro spells
    -- The bytes of a text are a text, and these are not.
    refine ⟨Utf8.encode (byCodes bytes).toList, ?_, ?_⟩
    · rw [if_neg (by simp [spells.1]), if_pos spells]
    · intro same
      have decoded := Utf8.decode_encode (byCodes bytes).toList
      rw [same, spells.1] at decoded
      cases decoded

end Term

namespace Tag

open Term (SpellsText reread? byCodes)

variable {bytes : List UInt8} {tag : Tag}

/-! ## Bytes in lower case -/

theorem not_upperByte_of_high {n : Nat} (low : 128 ≤ n) (high : n < 256) : ¬IsUpperByte (UInt8.ofNat n) := by
  rintro ⟨-, h⟩
  have := UInt8.le_iff_toNat_le.1 h
  rw [Utf8.toNat_byte high] at this
  have : n ≤ 90 := this
  omega

/-- The character of a byte that is not in upper case has no byte in upper case. -/
theorem not_upperByte_encodeChar {b x : UInt8} (lower : ¬IsUpperByte b)
    (h : x ∈ Utf8.encodeChar (Char.ofNat b.toNat)) : ¬IsUpperByte x := by
  by_cases ascii : b.toNat < 0x80
  · rw [Utf8.encodeChar_one ascii, List.mem_singleton] at h
    rwa [h]
  · have bound := b.toNat_lt
    rw [Utf8.encodeChar, Utf8.toNat_ofByte, if_neg ascii, if_pos (by omega)] at h
    rcases List.mem_pair.1 h with rfl | rfl
    · apply not_upperByte_of_high <;> omega
    · apply not_upperByte_of_high <;> omega

/-- Reading bytes back makes no upper-case letter out of bytes that have none. -/
theorem not_upperByte_of_reread {others : List UInt8} (lower : ∀ b ∈ bytes, ¬IsUpperByte b)
    (h : reread? bytes = some others) : ∀ b ∈ others, ¬IsUpperByte b := by
  unfold reread? at h
  split at h
  · obtain rfl := Option.some.inj h
    exact lower
  · split at h
    · obtain rfl := Option.some.inj h
      intro x hx
      rw [byCodes, String.toList_ofList, Utf8.encode, List.flatMap_map] at hx
      obtain ⟨b, hb, hx⟩ := List.mem_flatMap.1 hx
      exact not_upperByte_encodeChar (lower b hb) hx
    · cases h

/-! ## The tags of bytes -/

/-- A tag that takes these bytes as they are: that of bytes, and that of bytes in lower case if none of them
is in upper case. -/
def KeepsBytes (tag : Tag) (bytes : List UInt8) : Prop :=
  tag = .binary ∨ tag = .lowerBinary ∧ ∀ b ∈ bytes, ¬IsUpperByte b

/-- What such a tag makes of the bytes after they have been written and read. -/
theorem validate_written_bytes (keeps : tag.KeepsBytes bytes) (symbols : SymbolTable) :
    tag.validate symbols (Term.binary bytes).written = (reread? bytes).elim
      (.error (.expected tag (Term.binary bytes).written)) fun others => .ok (.binary others) := by
  unfold validate
  rcases keeps with rfl | ⟨rfl, lower⟩
  · dsimp only
    rw [Term.bytes?_written]
    cases reread? bytes <;> rfl
  · dsimp only
    rw [Term.bytes?_written]
    cases back : reread? bytes with
    | none => rfl
    | some others =>
      rw [Option.map_some, map_lowerByte (not_upperByte_of_reread lower back)]
      rfl

/-- **Bytes survive a dump to JSON, unless they spell a text.** The tag of bytes, and that of bytes in lower
case for bytes that are so, gives other bytes than those that were written if and only if they spell a text:
bytes that are no text, but each of them the code of a character that texts have. It gives bytes that are a
text as they were, it gives the bytes of the text where one is spelled, and it refuses the others. -/
theorem bytes_survive_unless_spelled (symbols : SymbolTable) (session : Session) (bytes : List UInt8)
    (tag : Tag) (keeps : tag.KeepsBytes bytes) : ∃ dumped,
    (Term.ofJson (Term.binary bytes).toJson session).1 = dumped ∧
    ((∀ t, tag.validate symbols dumped = .ok t → t = .binary bytes) ↔ ¬SpellsText bytes) ∧
    tag.validate symbols dumped =
      if (Utf8.decode bytes).isSome then .ok (.binary bytes)
      else if SpellsText bytes then .ok (.binary (Utf8.encode (byCodes bytes).toList))
      else .error (.expected tag dumped) := by
  have faithful : (Term.binary bytes).Every Term.Faithful := by simp [Term.Faithful]
  have made := validate_written_bytes keeps symbols
  refine ⟨_, congrArg Prod.fst (Term.ofJson_toJson faithful session), ?_, ?_⟩
  · rw [← Term.reread?_differs_iff, made]
    cases back : reread? bytes with
    | none => simp
    | some others => simp [eq_comm]
  · rw [made]
    unfold reread?
    split
    · rfl
    · split <;> rfl

/-- Bytes that are no text and have a control among them are refused, by both tags. -/
theorem bytes_survive_unless_spelled_control : ∃ dumped,
    (Term.ofJson (Term.binary [0xFF, 0x00]).toJson .start).1 = dumped ∧
    ¬SpellsText [0xFF, 0x00] ∧
    Tag.binary.validate .empty dumped = .error (.expected .binary dumped) ∧
    Tag.lowerBinary.validate .empty dumped = .error (.expected .lowerBinary dumped) := by
  have noText : ¬(Utf8.decode [0xFF, 0x00]).isSome = true := by decide
  have unspelled : ¬SpellsText [0xFF, 0x00] := by decide
  have lower : ∀ b ∈ [(0xFF : UInt8), 0x00], ¬IsUpperByte b := by simp [IsUpperByte]
  obtain ⟨_, rfl, -, made⟩ := bytes_survive_unless_spelled .empty .start [0xFF, 0x00] .binary (.inl rfl)
  obtain ⟨_, rfl, -, madeLower⟩ :=
    bytes_survive_unless_spelled .empty .start [0xFF, 0x00] .lowerBinary (.inr ⟨rfl, lower⟩)
  rw [if_neg noText, if_neg unspelled] at made madeLower
  exact ⟨_, rfl, unspelled, made, madeLower⟩

/-- One byte that spells a letter comes back as the two bytes of the letter. -/
theorem byte_comes_back_as_letter :
    Tag.binary.validate .empty (Term.ofJson (Term.binary [0xE9]).toJson .start).1
      = .ok (.binary [0xC3, 0xA9]) ∧ ([0xC3, 0xA9] : List UInt8) ≠ [0xE9] :=
  ⟨by rfl, by decide⟩

end Tag

end Conform
