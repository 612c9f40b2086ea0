import Conform.Net.Address
import Conform.Proofs.Text.Digits
import Conform.Proofs.Text.Split
import Conform.Text.Blank

/-!
# Texts of addresses

The text of an address has neither blanks nor upper case letters in it. Reading a version 6 address
does not look at the case of letters, and never takes a text that opens with a bracket.
-/

namespace Conform.Net

open Conform.Text

/-- A character that may stand in the name of a host. -/
def HostChar (c : Char) : Prop :=
  isBlank c = false ∧ ¬IsUpper c

instance (c : Char) : Decidable (HostChar c) :=
  inferInstanceAs (Decidable (_ ∧ _))

namespace Address

/-! ## Printing -/

/-- A character that addresses are written with: a point, a colon or a digit of the base sixteen. -/
def AddressChar (c : Char) : Prop :=
  c = '.' ∨ c = ':' ∨ ∃ d < 16, c = Nat.digitChar d

instance (c : Char) : Decidable (AddressChar c) :=
  inferInstanceAs (Decidable (_ ∨ _))

theorem hostChar_of_addressChar {c : Char} (h : AddressChar c) : HostChar c := by
  have digits : ∀ d < 16, HostChar (Nat.digitChar d) := by decide
  rcases h with rfl | rfl | ⟨d, hd, rfl⟩
  · decide
  · decide
  · exact digits d hd

theorem addressChar_toDigits {base n : Nat} (low : 1 < base) (high : base ≤ 16) :
    ∀ c ∈ Nat.toDigits base n, AddressChar c := by
  intro c hc
  obtain ⟨d, hd, rfl⟩ := mem_toDigits low hc
  exact .inr (.inr ⟨d, by omega, rfl⟩)

/-- Numbers in a base up to sixteen with points or colons between them. -/
theorem addressChar_numbers {α : Type} {sep : String} (hsep : ∀ c ∈ sep.toList, AddressChar c) {base : Nat}
    (low : 1 < base) (high : base ≤ 16) (values : List α) (value : α → Nat) :
    ∀ c ∈ (join sep (values.map fun v => String.ofList (Nat.toDigits base (value v)))).toList,
      AddressChar c := by
  intro c hc
  rcases mem_join hc with hc | ⟨p, hp, hc⟩
  · exact hsep c hc
  · obtain ⟨v, -, rfl⟩ := List.mem_map.1 hp
    rw [String.toList_ofList] at hc
    exact addressChar_toDigits low high c hc

/-- A fixed text, character by character. -/
theorem addressChar_of_all {s : String} (h : (s.toList.all fun c => AddressChar c) = true) :
    ∀ c ∈ s.toList, AddressChar c :=
  fun c hc => of_decide_eq_true (List.all_eq_true.1 h c hc)

theorem addressChar_dotted (octets : List UInt8) : ∀ c ∈ (dotted octets).toList, AddressChar c :=
  addressChar_numbers (addressChar_of_all (by decide)) (by decide) (by decide) octets UInt8.toNat

theorem addressChar_colons (groups : List UInt16) : ∀ c ∈ (colons groups).toList, AddressChar c :=
  addressChar_numbers (addressChar_of_all (by decide)) (by decide) (by decide) groups UInt16.toNat

theorem addressChar_append {s t : String} (hs : ∀ c ∈ s.toList, AddressChar c)
    (ht : ∀ c ∈ t.toList, AddressChar c) : ∀ c ∈ (s ++ t).toList, AddressChar c := by
  intro c hc
  rw [String.toList_append] at hc
  rcases List.mem_append.1 hc with hc | hc
  · exact hs c hc
  · exact ht c hc

/-- A compressed IPv6 text has address characters only, wherever its run of zeros stands. -/
theorem addressChar_compressed (groups : List UInt16) :
    ∀ c ∈ (compressed groups).toList, AddressChar c := by
  rw [compressed]
  split
  split
  · exact addressChar_colons groups
  · exact addressChar_append
      (addressChar_append (addressChar_colons _) (addressChar_of_all (by decide))) (addressChar_colons _)

/-- An address is written with these characters alone. -/
theorem addressChar_text (a : Address) : ∀ c ∈ a.text.toList, AddressChar c := by
  unfold text
  split
  · exact addressChar_dotted _
  · split
    · exact addressChar_append (addressChar_of_all (by decide)) (addressChar_dotted _)
    · exact addressChar_compressed _

/-- The text of an address is that of a host. -/
theorem hostChar_text (a : Address) : ∀ c ∈ a.text.toList, HostChar c :=
  fun c hc => hostChar_of_addressChar (addressChar_text a c hc)

/-! ## Reading -/

theorem readV6_bracket (cs : List Char) : readV6? ('[' :: cs) = none := by
  rfl

/-- Folding the case of a digit does not change its value: the letters that are digits lie alike in
both alphabets. -/
theorem digitValue_lowerAscii (c : Char) : digitValue? (lowerAscii c) = digitValue? c := by
  by_cases upper : IsUpper c
  · have bounds := toNat_of_upper upper
    have shifted := toNat_lowerAscii upper
    have digit : ¬('0' ≤ c ∧ c ≤ '9') := fun h => by
      have : c.toNat ≤ 57 := h.2
      omega
    have small : ¬('a' ≤ c ∧ c ≤ 'z') := fun h => by
      have : 97 ≤ c.toNat := h.1
      omega
    have digit' : ¬('0' ≤ lowerAscii c ∧ lowerAscii c ≤ '9') := fun h => by
      have : (lowerAscii c).toNat ≤ 57 := h.2
      omega
    have small' : 'a' ≤ lowerAscii c ∧ lowerAscii c ≤ 'z' := by
      change 97 ≤ (lowerAscii c).toNat ∧ (lowerAscii c).toNat ≤ 122
      omega
    have letter : 'A' ≤ c ∧ c ≤ 'Z' := upper
    rw [digitValue?, digitValue?, if_neg digit', if_pos small', if_neg digit, if_neg small,
      if_pos letter, shifted]
    change some (c.toNat + 32 - 97 + 10) = some (c.toNat - 65 + 10)
    congr 1
  · rw [lowerAscii_of_not_upper upper]

theorem digitIn_lowerAscii (base : Nat) (c : Char) :
    digitIn? base (lowerAscii c) = digitIn? base c := by
  rw [digitIn?, digitIn?, digitValue_lowerAscii]

theorem foldDigits_lowerAscii (base n : Nat) (cs : List Char) :
    foldDigits? base n (cs.map lowerAscii) = foldDigits? base n cs := by
  induction cs generalizing n with
  | nil => rfl
  | cons c cs ih =>
    rw [List.map_cons, foldDigits?, foldDigits?, digitIn_lowerAscii]
    cases digitIn? base c with
    | none => rfl
    | some d => exact ih _

theorem head_lowerAscii {x : Char} (h : x.toNat < 65) (cs : List Char) :
    (cs.map lowerAscii).head? = some x ↔ cs.head? = some x := by
  cases cs with
  | nil => rfl
  | cons c cs => simpa using lowerAscii_eq_iff h

/-- A reader's result, with the rest of the text in lower case. -/
def lowerRest {α : Type} (r : α × List Char) : α × List Char :=
  (r.1, r.2.map lowerAscii)

/-- Reading a number commutes with folding, and the rest is folded too. -/
theorem readNumber_lowerAscii (base limit bound : Nat) (zeros : Bool) (cs : List Char) :
    readNumber? base limit bound zeros (cs.map lowerAscii)
      = (readNumber? base limit bound zeros cs).map lowerRest := by
  have digits : (cs.map lowerAscii).takeWhile (fun c => (digitIn? base c).isSome)
      = (cs.takeWhile fun c => (digitIn? base c).isSome).map lowerAscii := by
    rw [List.takeWhile_map]
    congr 2
    funext c
    exact congrArg Option.isSome (digitIn_lowerAscii base c)
  have zero (ds : List Char) : ((ds.map lowerAscii).head? == some '0') = (ds.head? == some '0') := by
    rw [Bool.eq_iff_iff, beq_iff_eq, beq_iff_eq]
    exact head_lowerAscii (by decide) ds
  unfold readNumber?
  dsimp only
  rw [digits, List.length_map, zero, foldDigits_lowerAscii, ← List.map_drop]
  split
  · rfl
  · split
    · rfl
    · cases foldDigits? base 0 _ with
      | none => rfl
      | some n =>
        dsimp only [Option.bind_some]
        split <;> rfl

theorem readOctet_lowerAscii (first : Bool) (cs : List Char) :
    readOctet? first (cs.map lowerAscii) = (readOctet? first cs).map lowerRest := by
  have point := head_lowerAscii (x := '.') (by decide) cs
  have octet (cs : List Char) :
      (readNumber? 10 3 256 false (cs.map lowerAscii)).map (Prod.map UInt8.ofNat id)
        = ((readNumber? 10 3 256 false cs).map (Prod.map UInt8.ofNat id)).map lowerRest := by
    rw [readNumber_lowerAscii]
    cases readNumber? 10 3 256 false cs <;> rfl
  unfold readOctet?
  dsimp only
  cases first with
  | true => exact octet cs
  | false =>
    rw [if_neg Bool.false_ne_true, if_neg Bool.false_ne_true]
    by_cases h : cs.head? = some '.'
    · rw [if_pos h, if_pos (point.2 h), ← List.map_tail]
      exact octet cs.tail
    · rw [if_neg h, if_neg (fun e => h (point.1 e))]
      rfl

theorem readV4Front_lowerAscii (cs : List Char) :
    readV4Front? (cs.map lowerAscii) = (readV4Front? cs).map lowerRest := by
  unfold readV4Front?
  simp only [readOctet_lowerAscii]
  rcases readOctet? true cs with _ | ⟨a, cs⟩
  · rfl
  dsimp only [Option.map_some, lowerRest, bind, Option.bind]
  rw [readOctet_lowerAscii]
  rcases readOctet? false cs with _ | ⟨b, cs⟩
  · rfl
  dsimp only [Option.map_some, lowerRest]
  rw [readOctet_lowerAscii]
  rcases readOctet? false cs with _ | ⟨c, cs⟩
  · rfl
  dsimp only [Option.map_some, lowerRest]
  rw [readOctet_lowerAscii]
  rcases readOctet? false cs with _ | ⟨d, cs⟩ <;> rfl

theorem dropColon_lowerAscii (first : Bool) (cs : List Char) :
    dropColon? first (cs.map lowerAscii) = (dropColon? first cs).map (List.map lowerAscii) := by
  have colon := head_lowerAscii (x := ':') (by decide) cs
  cases first with
  | true => rfl
  | false =>
    unfold dropColon?
    rw [if_neg Bool.false_ne_true, if_neg Bool.false_ne_true]
    by_cases h : cs.head? = some ':'
    · rw [if_pos h, if_pos (colon.2 h), ← List.map_tail]
      rfl
    · rw [if_neg h, if_neg (fun e => h (colon.1 e))]
      rfl

/-- The groups of an IPv6 address, with a dotted end if it has one, are the same in both cases. -/
theorem readGroups_lowerAscii (first : Bool) (limit : Nat) (cs : List Char) :
    readGroups first limit (cs.map lowerAscii)
      = ((readGroups first limit cs).1, lowerRest (readGroups first limit cs).2) := by
  induction limit generalizing first cs with
  | zero => rfl
  | succ limit ih =>
    rw [readGroups, readGroups, dropColon_lowerAscii]
    cases dropColon? first cs with
    | none => rfl
    | some body =>
      have front : (if limit = 0 then none else readV4Front? (body.map lowerAscii))
          = (if limit = 0 then none else readV4Front? body).map lowerRest := by
        split
        · rfl
        · exact readV4Front_lowerAscii body
      dsimp only [Option.map_some]
      rw [front]
      rcases (if limit = 0 then none else readV4Front? body) with _ | ⟨octets, rest⟩
      · dsimp only [Option.map_none]
        rw [readNumber_lowerAscii]
        rcases readNumber? 16 4 65536 true body with _ | ⟨n, rest⟩
        · rfl
        · dsimp only [Option.map_some, lowerRest]
          rw [ih false rest]
          rfl
      · rfl

theorem double_colon_of_map {cs tail : List Char} (h : cs.map lowerAscii = ':' :: ':' :: tail) :
    ∃ rest, cs = ':' :: ':' :: rest ∧ tail = rest.map lowerAscii := by
  obtain ⟨a, cs, rfl, ha, h⟩ := List.map_eq_cons_iff.1 h
  obtain ⟨b, rest, rfl, hb, rfl⟩ := List.map_eq_cons_iff.1 h
  rw [lowerAscii_eq_iff (by decide)] at ha hb
  exact ⟨rest, by rw [ha, hb], rfl⟩

/-- Whether a text is a version 6 address, and which, does not depend on the case of its letters. -/
theorem readV6_lowerAscii (cs : List Char) : readV6? (cs.map lowerAscii) = readV6? cs := by
  unfold readV6?
  rw [readGroups_lowerAscii]
  obtain ⟨head, embedded, rest⟩ := readGroups true 8 cs
  dsimp only [lowerRest]
  rw [List.isEmpty_map]
  split
  · rfl
  split
  · rfl
  split
  · rename_i tail h
    obtain ⟨rest, rfl, rfl⟩ := double_colon_of_map h
    rw [readGroups_lowerAscii]
    simp only [lowerRest, List.isEmpty_map]
  · rename_i single
    split
    · exact absurd rfl (single _)
    · rfl

end Address

end Conform.Net
