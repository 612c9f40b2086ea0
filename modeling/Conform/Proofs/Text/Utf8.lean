import Conform.Text.Utf8

/-!
# Bytes of text are read back as the text

The leading byte of a character tells how many bytes it takes, the bytes that follow give six bits each,
and together they make up the code point. Shortest forms are written, so reading does not refuse them; and
no others are read, so a text has no other bytes.
-/

namespace Conform.Text.Utf8

variable {b₀ b₁ b₂ b₃ : UInt8} {rest : List UInt8} {n₁ n₂ n₃ : Nat} {c : Char}

/-! ## The four forms, read -/

theorem decode_one (lead : b₀.toNat < 0x80) :
    decode (b₀ :: rest) = (decode rest).map (Char.ofNat b₀.toNat :: ·) := by
  rw [decode.eq_def]
  exact if_pos lead

/-- Decoding a character of two bytes, one that needs both by the least number that `scalar?`
allows. -/
theorem decode_two (low : 0xC0 ≤ b₀.toNat) (high : b₀.toNat < 0xE0) (h₁ : continuation? b₁ = some n₁)
    (whole : scalar? 0x80 ((b₀.toNat - 0xC0) * 64 + n₁) = some c) :
    decode (b₀ :: b₁ :: rest) = (decode rest).map (c :: ·) := by
  rw [decode.eq_def]
  simp only [if_neg (by omega : ¬b₀.toNat < 0x80), if_neg (by omega : ¬b₀.toNat < 0xC0), if_pos high,
    h₁, whole]

theorem decode_three (low : 0xE0 ≤ b₀.toNat) (high : b₀.toNat < 0xF0) (h₁ : continuation? b₁ = some n₁)
    (h₂ : continuation? b₂ = some n₂)
    (whole : scalar? 0x800 ((b₀.toNat - 0xE0) * 4096 + n₁ * 64 + n₂) = some c) :
    decode (b₀ :: b₁ :: b₂ :: rest) = (decode rest).map (c :: ·) := by
  rw [decode.eq_def]
  simp only [if_neg (by omega : ¬b₀.toNat < 0x80), if_neg (by omega : ¬b₀.toNat < 0xC0),
    if_neg (by omega : ¬b₀.toNat < 0xE0), if_pos high, h₁, h₂, whole]

theorem decode_four (low : 0xF0 ≤ b₀.toNat) (h₁ : continuation? b₁ = some n₁)
    (h₂ : continuation? b₂ = some n₂) (h₃ : continuation? b₃ = some n₃)
    (whole : scalar? 0x10000 ((b₀.toNat - 0xF0) * 262144 + n₁ * 4096 + n₂ * 64 + n₃) = some c) :
    decode (b₀ :: b₁ :: b₂ :: b₃ :: rest) = (decode rest).map (c :: ·) := by
  rw [decode.eq_def]
  -- Unfolded, the product by 262144 would be computed by as many additions.
  obtain ⟨ofCode, eq⟩ : ∃ ofCode, ofCode = scalar? 0x10000 := ⟨_, rfl⟩
  rw [← eq] at whole ⊢
  simp only [if_neg (by omega : ¬b₀.toNat < 0x80), if_neg (by omega : ¬b₀.toNat < 0xC0),
    if_neg (by omega : ¬b₀.toNat < 0xE0), if_neg (by omega : ¬b₀.toNat < 0xF0), h₁, h₂, h₃, whole]

/-! ## The four forms, written -/

theorem toNat_byte {n : Nat} (h : n < 256) : (UInt8.ofNat n).toNat = n := by
  rw [UInt8.toNat_ofNat']
  exact Nat.mod_eq_of_lt h

theorem continuation_byte {n : Nat} (h : n < 64) :
    continuation? (UInt8.ofNat (0x80 + n)) = some n := by
  rw [continuation?, toNat_byte (by omega), if_pos ⟨by omega, by omega⟩, Nat.add_sub_cancel_left]

/-- The code point of a character gives the character, however it is put together. -/
theorem scalar_toNat {least n : Nat} (h : n = c.toNat) (low : least ≤ n) :
    scalar? least n = some c := by
  subst h
  have valid : c.toNat.isValidChar := c.valid
  rw [scalar?, dif_pos valid, if_pos low]
  rfl

/-- The bytes of a character are read back as the character. -/
theorem decode_encodeChar (c : Char) (rest : List UInt8) :
    decode (encodeChar c ++ rest) = (decode rest).map (c :: ·) := by
  have bound : c.toNat < 0x110000 := by
    have valid : c.toNat.isValidChar := c.valid
    simp only [Nat.isValidChar] at valid
    omega
  simp only [encodeChar]
  split
  · rename_i one
    rw [List.singleton_append, decode_one (by rwa [toNat_byte (by omega)]), toNat_byte (by omega),
      Char.ofNat_toNat]
  · split
    · have lead : (UInt8.ofNat (0xC0 + c.toNat / 64)).toNat = 0xC0 + c.toNat / 64 :=
        toNat_byte (by omega)
      exact decode_two (by omega) (by omega) (continuation_byte (by omega))
        (scalar_toNat (by omega) (by omega))
    · split
      · have lead : (UInt8.ofNat (0xE0 + c.toNat / 4096)).toNat = 0xE0 + c.toNat / 4096 :=
          toNat_byte (by omega)
        exact decode_three (by omega) (by omega) (continuation_byte (by omega))
          (continuation_byte (by omega)) (scalar_toNat (by omega) (by omega))
      · have lead : (UInt8.ofNat (0xF0 + c.toNat / 262144)).toNat = 0xF0 + c.toNat / 262144 :=
          toNat_byte (by omega)
        exact decode_four (by omega) (continuation_byte (by omega)) (continuation_byte (by omega))
          (continuation_byte (by omega)) (scalar_toNat (by omega) (by omega))

/-- **The bytes of a text are read back as the text.** -/
theorem decode_encode (cs : List Char) : decode (encode cs) = some cs := by
  induction cs with
  | nil => rfl
  | cons c cs ih =>
    have split : encode (c :: cs) = encodeChar c ++ encode cs := List.flatMap_cons
    rw [split, decode_encodeChar, ih, Option.map_some]

/-! ## A text has no other bytes -/

theorem byte_eq {b : UInt8} {n : Nat} (h : b.toNat = n) : UInt8.ofNat n = b := by
  rw [← h, UInt8.ofNat_toNat]

theorem eq_of_continuation {b : UInt8} {n : Nat} (h : continuation? b = some n) :
    n < 64 ∧ UInt8.ofNat (0x80 + n) = b := by
  unfold continuation? at h
  split at h
  · obtain rfl := Option.some.inj h
    refine ⟨by omega, byte_eq ?_⟩
    omega
  · cases h

/-- A scalar that was put together is the character of that number, and not encoded longer than it
must be. -/
theorem eq_of_scalar {least n : Nat} (h : scalar? least n = some c) : c.toNat = n ∧ least ≤ n := by
  by_cases valid : n.isValidChar
  · by_cases low : least ≤ n
    · rw [scalar?, dif_pos valid, if_pos low] at h
      obtain rfl := Option.some.inj h
      exact ⟨rfl, low⟩
    · rw [scalar?, dif_pos valid, if_neg low] at h
      cases h
  · rw [scalar?, dif_neg valid] at h
    cases h

/-- A byte is the code of a character. -/
theorem toNat_ofByte (b : UInt8) : (Char.ofNat b.toNat).toNat = b.toNat := by
  have bound := b.toNat_lt
  have valid : b.toNat.isValidChar := .inl (by omega)
  rw [Char.ofNat, dif_pos valid]
  rfl

theorem encodeChar_one (lead : b₀.toNat < 0x80) : encodeChar (Char.ofNat b₀.toNat) = [b₀] := by
  rw [encodeChar, toNat_ofByte, if_pos lead, UInt8.ofNat_toNat]

/-- The bits that were put together from two bytes are taken apart again; three and four go the same
way. -/
theorem encodeChar_two (low : 0xC0 ≤ b₀.toNat) (high : b₀.toNat < 0xE0) (h₁ : continuation? b₁ = some n₁)
    (whole : scalar? 0x80 ((b₀.toNat - 0xC0) * 64 + n₁) = some c) : encodeChar c = [b₀, b₁] := by
  obtain ⟨small₁, rfl⟩ := eq_of_continuation h₁
  obtain ⟨code, least⟩ := eq_of_scalar whole
  have lead : UInt8.ofNat (0xC0 + c.toNat / 64) = b₀ := byte_eq (by omega)
  have last : c.toNat % 64 = n₁ := by omega
  rw [encodeChar, if_neg (by omega), if_pos (by omega), lead, last]

theorem encodeChar_three (low : 0xE0 ≤ b₀.toNat) (high : b₀.toNat < 0xF0)
    (h₁ : continuation? b₁ = some n₁) (h₂ : continuation? b₂ = some n₂)
    (whole : scalar? 0x800 ((b₀.toNat - 0xE0) * 4096 + n₁ * 64 + n₂) = some c) :
    encodeChar c = [b₀, b₁, b₂] := by
  obtain ⟨small₁, rfl⟩ := eq_of_continuation h₁
  obtain ⟨small₂, rfl⟩ := eq_of_continuation h₂
  obtain ⟨code, least⟩ := eq_of_scalar whole
  have lead : UInt8.ofNat (0xE0 + c.toNat / 4096) = b₀ := byte_eq (by omega)
  have middle : c.toNat / 64 % 64 = n₁ := by omega
  have last : c.toNat % 64 = n₂ := by omega
  rw [encodeChar, if_neg (by omega), if_neg (by omega), if_pos (by omega), lead, middle, last]

theorem encodeChar_four (low : 0xF0 ≤ b₀.toNat) (h₁ : continuation? b₁ = some n₁)
    (h₂ : continuation? b₂ = some n₂) (h₃ : continuation? b₃ = some n₃)
    (whole : scalar? 0x10000 ((b₀.toNat - 0xF0) * 262144 + n₁ * 4096 + n₂ * 64 + n₃) = some c) :
    encodeChar c = [b₀, b₁, b₂, b₃] := by
  obtain ⟨small₁, rfl⟩ := eq_of_continuation h₁
  obtain ⟨small₂, rfl⟩ := eq_of_continuation h₂
  obtain ⟨small₃, rfl⟩ := eq_of_continuation h₃
  obtain ⟨code, least⟩ := eq_of_scalar whole
  have lead : UInt8.ofNat (0xF0 + c.toNat / 262144) = b₀ := byte_eq (by omega)
  have second : c.toNat / 4096 % 64 = n₁ := by omega
  have third : c.toNat / 64 % 64 = n₂ := by omega
  have last : c.toNat % 64 = n₃ := by omega
  rw [encodeChar, if_neg (by omega), if_neg (by omega), if_neg (by omega), lead, second, third, last]

/-- One more character in front. -/
theorem encode_of_map {bytes : List UInt8} {cs : List Char} (first : encodeChar c = bytes)
    (others : ∀ {cs}, decode rest = some cs → encode cs = rest)
    (h : (decode rest).map (c :: ·) = some cs) : encode cs = bytes ++ rest := by
  obtain ⟨cs, decoded, rfl⟩ := Option.map_eq_some_iff.1 h
  rw [← first, ← others decoded]
  exact List.flatMap_cons

/-- **A text has no other bytes than its own.** -/
theorem encode_of_decode {bytes : List UInt8} {cs : List Char} (h : decode bytes = some cs) :
    encode cs = bytes := by
  -- The induction is along the characters that are read; in the other cases nothing is.
  fun_induction decode bytes generalizing cs with
  | case1 =>
    cases h
    rfl
  | case2 b₀ rest _ lead =>
    rename_i ih
    exact encode_of_map (encodeChar_one lead) ih h
  | case7 b₀ _ _ low b₁ rest n₁ h₁ high c whole =>
    rename_i ih
    exact encode_of_map (encodeChar_two (Nat.le_of_not_lt low) high h₁ whole) ih h
  | case11 b₀ _ _ _ b₁ n₁ h₁ low b₂ rest n₂ h₂ high c whole =>
    rename_i ih
    exact encode_of_map (encodeChar_three (Nat.le_of_not_lt low) high h₁ h₂ whole) ih h
  | case15 b₀ _ _ _ b₁ n₁ h₁ _ b₂ n₂ h₂ low b₃ rest n₃ h₃ c whole =>
    rename_i ih
    exact encode_of_map (encodeChar_four (Nat.le_of_not_lt low) h₁ h₂ h₃ whole) ih h
  | _ => cases h

end Conform.Text.Utf8
