import Conform.Net.Address
import Conform.Proofs.Text.Digits

/-!
# Addresses are read back from their texts

The text of an address names that address. A number is read up to the next separator, so each octet and
each group is read back, one after another. In version 6 the reader looks for a version 4 address before
every group; it finds one only where there is a point. A run of zeros that was written as two colons is
restored from the number of groups before and after it.

`readV4_dotted` and `readV6_compressed` are the two versions.
-/

namespace Conform.Net.Address

open Conform.Text

/-! ## Numbers -/

/-- The text does not begin with a digit of this base. -/
def NoDigit (base : Nat) (cs : List Char) : Prop :=
  ∀ c, cs.head? = some c → digitIn? base c = none

theorem noDigit_nil (base : Nat) : NoDigit base [] :=
  nofun

theorem noDigit_cons {base : Nat} {c : Char} (h : digitIn? base c = none) (cs : List Char) :
    NoDigit base (c :: cs) := by
  rintro d ⟨⟩
  exact h

theorem takeWhile_of_noDigit {base : Nat} {cs : List Char} (h : NoDigit base cs) :
    cs.takeWhile (fun c => (digitIn? base c).isSome) = [] := by
  cases cs with
  | nil => rfl
  | cons c cs =>
    rw [List.takeWhile_cons, h c rfl]
    rfl

/-- Where no digit stands no number is read. -/
theorem readNumber_of_noDigit {base : Nat} {cs : List Char} (h : NoDigit base cs)
    (limit bound : Nat) (zeros : Bool) : readNumber? base limit bound zeros cs = none := by
  unfold readNumber?
  rw [takeWhile_of_noDigit h]
  rfl

/-- The digits of a number are read up to the first character that is none. -/
theorem readNumber_toDigits {base limit bound n : Nat} (low : 1 < base) (high : base ≤ 16)
    (short : (Nat.toDigits base n).length ≤ limit) (small : n < bound) (zeros : Bool)
    {rest : List Char} (h : NoDigit base rest) :
    readNumber? base limit bound zeros (Nat.toDigits base n ++ rest) = some (n, rest) := by
  have digits : (Nat.toDigits base n ++ rest).takeWhile (fun c => (digitIn? base c).isSome)
      = Nat.toDigits base n := by
    rw [List.takeWhile_append_of_pos (isSome_digitIn_toDigits low high n), takeWhile_of_noDigit h,
      List.append_nil]
  have some_digit : ¬((Nat.toDigits base n).length = 0 ∨ limit < (Nat.toDigits base n).length) := by
    have positive : 0 < (Nat.toDigits base n).length := Nat.length_toDigits_pos
    omega
  have no_zero : ¬(!zeros && (Nat.toDigits base n).length != 1
      && (Nat.toDigits base n).head? == some '0') = true := by
    intro leading
    simp only [Bool.and_eq_true, bne_iff_ne, beq_iff_eq] at leading
    obtain ⟨⟨-, long⟩, zero⟩ := leading
    rcases Nat.eq_zero_or_pos n with rfl | positive
    · exact long (by rw [toDigits_zero low]; rfl)
    · exact head_toDigits low high positive zero
  unfold readNumber?
  dsimp only
  rw [digits, if_neg some_digit, if_neg no_zero, foldDigits_toDigits low high, Option.bind_some,
    if_pos small, List.drop_left]

/-! ## Version 4 -/

theorem readOctet_first (o : UInt8) {rest : List Char} (h : NoDigit 10 rest) :
    readOctet? true (Nat.toDigits 10 o.toNat ++ rest) = some (o, rest) := by
  have small : o.toNat < 256 := o.toNat_lt
  have short : (Nat.toDigits 10 o.toNat).length ≤ 3 :=
    (Nat.length_toDigits_le_iff (by decide) (by decide)).2 (by omega)
  have read := readNumber_toDigits (by decide) (by decide) short small false h
  simp only [readOctet?, if_true, Option.bind_some, read, Option.map_some, UInt8.ofNat_toNat]

/-- A further octet is read with the point in front of it. -/
theorem readOctet_next (o : UInt8) {rest : List Char} (h : NoDigit 10 rest) :
    readOctet? false ('.' :: (Nat.toDigits 10 o.toNat ++ rest)) = some (o, rest) :=
  readOctet_first o h

theorem noDigit_point (cs : List Char) : NoDigit 10 ('.' :: cs) :=
  noDigit_cons (by decide) cs

theorem toList_dotted (a b c d : UInt8) : (dotted [a, b, c, d]).toList =
    Nat.toDigits 10 a.toNat ++ ('.' :: (Nat.toDigits 10 b.toNat ++
      ('.' :: (Nat.toDigits 10 c.toNat ++ ('.' :: Nat.toDigits 10 d.toNat))))) := by
  simp [dotted, join, decimal, List.intercalate]

/-- Four octets with points between them. -/
theorem readV4Front_dotted (a b c d : UInt8) :
    readV4Front? (dotted [a, b, c, d]).toList = some (#v[a, b, c, d], []) := by
  have last : readOctet? false ('.' :: Nat.toDigits 10 d.toNat) = some (d, []) := by
    have read := readOctet_next d (noDigit_nil 10)
    rwa [List.append_nil] at read
  rw [toList_dotted]
  unfold readV4Front?
  simp only [Option.bind_eq_bind, readOctet_first a (noDigit_point _),
    readOctet_next b (noDigit_point _), readOctet_next c (noDigit_point _), last, Option.bind_some]
  rfl

theorem exists_octets (octets : Vector UInt8 4) : ∃ a b c d, octets = #v[a, b, c, d] := by
  obtain ⟨⟨items⟩, length⟩ := octets
  match items, length with
  | [a, b, c, d], _ => exact ⟨a, b, c, d, rfl⟩

/-- A dotted text reads back. -/
theorem readV4_dotted (octets : Vector UInt8 4) :
    readV4? (dotted octets.toList).toList = some (.v4 octets) := by
  obtain ⟨a, b, c, d, rfl⟩ := exists_octets octets
  have read : readV4Front? (dotted #v[a, b, c, d].toList).toList = some (#v[a, b, c, d], []) :=
    readV4Front_dotted a b c d
  rw [readV4?, read]

/-- What is left after a number is an end of the text. -/
theorem suffix_of_readNumber {base limit bound : Nat} {zeros : Bool} {cs rest : List Char} {n : Nat}
    (h : readNumber? base limit bound zeros cs = some (n, rest)) : rest <:+ cs := by
  unfold readNumber? at h
  dsimp only at h
  split at h
  · cases h
  · split at h
    · cases h
    · obtain ⟨m, -, h⟩ := Option.bind_eq_some_iff.1 h
      split at h
      · cases h
        exact List.drop_suffix _ _
      · cases h

/-- Without a point there are no four octets. -/
theorem readV4Front_of_no_point {cs : List Char} (h : '.' ∉ cs) : readV4Front? cs = none := by
  unfold readV4Front?
  rw [Option.bind_eq_bind]
  cases first : readOctet? true cs with
  | none => rfl
  | some found =>
    obtain ⟨a, rest⟩ := found
    obtain ⟨⟨n, rest'⟩, read, same⟩ := Option.map_eq_some_iff.1 first
    have left : rest' = rest := congrArg Prod.snd same
    have suffix : rest <:+ cs := left ▸ suffix_of_readNumber read
    have next : readOctet? false rest = none := by
      have no_head : rest.head? ≠ some '.' := by
        intro head
        exact h (suffix.subset (List.mem_of_mem_head? head))
      simp only [readOctet?, Bool.false_eq_true, if_false, if_neg no_head, Option.bind_none]
    rw [Option.bind_some]
    simp only [next, Option.bind_none]

/-! ## Groups -/

/-- Groups each after a colon. -/
def colonTail (groups : List UInt16) : List Char :=
  groups.flatMap fun g => ':' :: Nat.toDigits 16 g.toNat

theorem toList_colons_cons (g : UInt16) (gs : List UInt16) :
    (colons (g :: gs)).toList = Nat.toDigits 16 g.toNat ++ colonTail gs := by
  rw [colons, join, String.toList_ofList]
  induction gs generalizing g with
  | nil => simp [colonTail, hex]
  | cons h gs ih =>
    have others := ih h
    rw [List.map_cons, List.map_cons] at others
    rw [List.map_cons, List.map_cons, List.map_cons, List.map_cons, List.intercalate_cons_cons, others]
    simp [colonTail, hex]

theorem noDigit_colon (cs : List Char) : NoDigit 16 (':' :: cs) :=
  noDigit_cons (by decide) cs

theorem digit_ne_point {n : Nat} : '.' ∉ Nat.toDigits 16 n := by
  intro point
  have digit : (digitIn? 16 '.').isSome = true :=
    isSome_digitIn_toDigits (by decide) (by decide) n '.' point
  cases digit

theorem no_point_colonTail (gs : List UInt16) : '.' ∉ colonTail gs := by
  intro point
  obtain ⟨g, -, point⟩ := List.mem_flatMap.1 point
  rcases List.mem_cons.1 point with point | point
  · cases point
  · exact digit_ne_point point

/-- No text of groups has a point, so none is taken for an address of version 4. -/
theorem no_point_colons (gs : List UInt16) : '.' ∉ (colons gs).toList := by
  cases gs with
  | nil => exact List.not_mem_nil
  | cons g gs =>
    rw [toList_colons_cons]
    intro point
    rcases List.mem_append.1 point with point | point
    · exact digit_ne_point point
    · exact no_point_colonTail gs point

/-- What may follow groups: the end of the text, or the two colons of a run of zeros. -/
structure EndsGroups (rest : List Char) : Prop where
  shape : rest = [] ∨ ∃ cs, rest = ':' :: ':' :: cs
  no_point : '.' ∉ rest

theorem noDigit_colonTail (gs : List UInt16) {rest : List Char} (h : EndsGroups rest) :
    NoDigit 16 (colonTail gs ++ rest) := by
  cases gs with
  | nil =>
    rcases h.shape with rfl | ⟨cs, rfl⟩
    · exact noDigit_nil 16
    · exact noDigit_colon _
  | cons => exact noDigit_colon _

/-- One more group is read where no version 4 address can be. -/
theorem readGroups_number {first : Bool} {limit n : Nat} {cs body rest : List Char}
    (start : dropColon? first cs = some body) (no_point : '.' ∉ body)
    (number : readNumber? 16 4 65536 true body = some (n, rest)) :
    readGroups first (limit + 1) cs =
      (UInt16.ofNat n :: (readGroups false limit rest).1, (readGroups false limit rest).2) := by
  have front : (if limit = 0 then none else readV4Front? body) = none := by
    rw [readV4Front_of_no_point no_point, ite_self]
  rw [readGroups, start]
  simp only [front, number]

/-- No group is read where there is no number. -/
theorem readGroups_stop {first : Bool} {cs : List Char} (no_point : '.' ∉ cs)
    (stop : ∀ body, dropColon? first cs = some body → NoDigit 16 body) (limit : Nat) :
    readGroups first limit cs = ([], false, cs) := by
  cases limit with
  | zero => rfl
  | succ limit =>
    rw [readGroups]
    cases start : dropColon? first cs with
    | none => rfl
    | some body =>
      have within : body <:+ cs := by
        unfold dropColon? at start
        split at start
        · cases start
          exact List.suffix_refl _
        · split at start
          · cases start
            exact List.tail_suffix _
          · cases start
      have front : (if limit = 0 then none else readV4Front? body) = none := by
        rw [readV4Front_of_no_point fun h => no_point (within.subset h), ite_self]
      simp only [front, readNumber_of_noDigit (stop body start)]

theorem readGroups_end {rest : List Char} (h : EndsGroups rest) (limit : Nat) :
    readGroups false limit rest = ([], false, rest) := by
  apply readGroups_stop h.no_point
  intro body start
  rcases h.shape with rfl | ⟨cs, rfl⟩
  · cases start
  · cases start
    exact noDigit_colon cs

theorem readGroup (g : UInt16) {rest : List Char} (h : NoDigit 16 rest) :
    readNumber? 16 4 65536 true (Nat.toDigits 16 g.toNat ++ rest) = some (g.toNat, rest) := by
  have small : g.toNat < 65536 := g.toNat_lt
  have short : (Nat.toDigits 16 g.toNat).length ≤ 4 :=
    (Nat.length_toDigits_le_iff (by decide) (by decide)).2 (by omega)
  exact readNumber_toDigits (by decide) (by decide) short small true h

/-- Groups after a colon each are read one by one. -/
theorem readGroups_colonTail {gs : List UInt16} {limit : Nat} (room : gs.length ≤ limit)
    {rest : List Char} (h : EndsGroups rest) :
    readGroups false limit (colonTail gs ++ rest) = (gs, false, rest) := by
  induction gs generalizing limit with
  | nil => exact readGroups_end h limit
  | cons g gs ih =>
    obtain ⟨limit, rfl⟩ : ∃ k, limit = k + 1 := ⟨limit - 1, by simp at room; omega⟩
    have no_point : '.' ∉ Nat.toDigits 16 g.toNat ++ (colonTail gs ++ rest) := by
      simp only [List.mem_append, not_or]
      exact ⟨digit_ne_point, no_point_colonTail gs, h.no_point⟩
    have start : dropColon? false (colonTail (g :: gs) ++ rest)
        = some (Nat.toDigits 16 g.toNat ++ (colonTail gs ++ rest)) := by
      simp [dropColon?, colonTail]
    rw [readGroups_number start no_point (readGroup g (noDigit_colonTail gs h)),
      ih (by simp at room; omega), UInt16.ofNat_toNat]

/-- Groups with colons between them are read one by one. -/
theorem readGroups_colons {gs : List UInt16} {limit : Nat} (room : gs.length ≤ limit)
    {rest : List Char} (h : EndsGroups rest) :
    readGroups true limit ((colons gs).toList ++ rest) = (gs, false, rest) := by
  cases gs with
  | nil =>
    apply readGroups_stop h.no_point
    rintro body ⟨⟩
    exact noDigit_colonTail [] h
  | cons g gs =>
    obtain ⟨limit, rfl⟩ : ∃ k, limit = k + 1 := ⟨limit - 1, by simp at room; omega⟩
    have no_point : '.' ∉ Nat.toDigits 16 g.toNat ++ (colonTail gs ++ rest) := by
      simp only [List.mem_append, not_or]
      exact ⟨digit_ne_point, no_point_colonTail gs, h.no_point⟩
    rw [toList_colons_cons, List.append_assoc,
      readGroups_number rfl no_point (readGroup g (noDigit_colonTail gs h)),
      readGroups_colonTail (by simpa using room) h, UInt16.ofNat_toNat]

/-! ## Version 6 -/

/-- The groups have zeros only, from `start` on and as many as `run`. -/
def IsZeroRun (groups : List UInt16) (found : Nat × Nat) : Prop :=
  ∃ before after, before.length = found.1 ∧
    groups = before ++ (List.replicate found.2 0 ++ after)

/-- The run that is found is one of zeros within the groups: by induction on the groups that are
left, with those in front as `before`. -/
theorem isZeroRun_longest {groups before gs : List UInt16} {i : Nat} {best : Nat × Nat}
    (split : groups = before ++ gs) (here : before.length = i) (h : IsZeroRun groups best) :
    IsZeroRun groups (longestZeroRun gs i best) := by
  induction gs generalizing before i best with
  | nil => exact h
  | cons g gs ih =>
    have zeros : (g :: gs).takeWhile (· == 0)
        = List.replicate ((g :: gs).takeWhile (· == 0)).length 0 :=
      List.eq_replicate_iff.2 ⟨rfl, fun b hb =>
        beq_iff_eq.1 (List.all_eq_true.1 List.all_takeWhile b hb)⟩
    have run : IsZeroRun groups (i, ((g :: gs).takeWhile (· == 0)).length) := by
      refine ⟨before, (g :: gs).dropWhile (· == 0), here, ?_⟩
      rw [← zeros, List.takeWhile_append_dropWhile]
      exact split
    rw [longestZeroRun]
    have further : groups = (before ++ [g]) ++ gs := by
      rw [split, List.append_assoc]
      rfl
    have there : (before ++ [g]).length = i + 1 := by
      rw [List.length_append, here]
      rfl
    apply ih further there
    split
    · exact run
    · exact h

theorem ofGroups_toList (groups : Vector UInt16 8) : ofGroups? groups.toList = some (.v6 groups) := by
  obtain ⟨⟨items⟩, length⟩ := groups
  exact dif_pos length

theorem endsGroups_nil : EndsGroups [] :=
  ⟨.inl rfl, List.not_mem_nil⟩

theorem readV6_colons (groups : Vector UInt16 8) :
    readV6? (colons groups.toList).toList = some (.v6 groups) := by
  have eight : groups.toList.length = 8 := groups.length_toList
  have read : readGroups true 8 ((colons groups.toList).toList ++ []) = (groups.toList, false, []) :=
    readGroups_colons (Nat.le_of_eq eight) endsGroups_nil
  rw [List.append_nil] at read
  simp only [readV6?, read, eight, if_true, List.isEmpty_nil]
  exact ofGroups_toList groups

/-- Two colons stand for as many zeros as are missing. -/
theorem readV6_of_parts {cs rest : List Char} {before after : List UInt16} {embedded : Bool}
    (short : ¬before.length = 8) (head : readGroups true 8 cs = (before, false, ':' :: ':' :: rest))
    (tail : readGroups true (7 - before.length) rest = (after, embedded, [])) :
    readV6? cs
      = ofGroups? (before ++ List.replicate (8 - before.length - after.length) 0 ++ after) := by
  simp only [readV6?, head, if_neg short, Bool.false_eq_true, if_false, tail, List.isEmpty_nil, if_true]

/-- A double colon stands for as many zeros as are missing from eight groups. -/
theorem readV6_double_colon {before after : List UInt16} {run : Nat} (long : 2 ≤ run)
    (eight : before.length + run + after.length = 8) :
    readV6? ((colons before).toList ++ (':' :: ':' :: (colons after).toList))
      = ofGroups? (before ++ List.replicate run 0 ++ after) := by
  have ends : EndsGroups (':' :: ':' :: (colons after).toList) := by
    refine ⟨.inr ⟨_, rfl⟩, ?_⟩
    simpa using no_point_colons after
  have head : readGroups true 8 ((colons before).toList ++ _) = (before, false, _) :=
    readGroups_colons (by omega) ends
  have tail : readGroups true (7 - before.length) ((colons after).toList ++ []) = (after, false, []) :=
    readGroups_colons (by omega) endsGroups_nil
  rw [List.append_nil] at tail
  have missing : 8 - before.length - after.length = run := by omega
  rw [readV6_of_parts (by omega) head tail, missing]

/-- A compressed text reads back: the run at the double colon was one of zeros, by
`isZeroRun_longest`. -/
theorem readV6_compressed (groups : Vector UInt16 8) :
    readV6? (compressed groups.toList).toList = some (.v6 groups) := by
  have eight : groups.toList.length = 8 := groups.length_toList
  have none_yet : IsZeroRun groups.toList (0, 0) := ⟨[], groups.toList, rfl, rfl⟩
  have zeros : IsZeroRun groups.toList (longestZeroRun groups.toList 0 (0, 0)) :=
    isZeroRun_longest (List.nil_append _).symm rfl none_yet
  unfold compressed
  generalize longestZeroRun groups.toList 0 (0, 0) = found at zeros ⊢
  obtain ⟨start, run⟩ := found
  obtain ⟨before, after, rfl, split⟩ := zeros
  dsimp only at split ⊢
  split
  · exact readV6_colons groups
  · rename_i long
    have first : groups.toList.take before.length = before := by
      rw [split, List.take_left]
    have last : groups.toList.drop (before.length + run) = after := by
      rw [split, ← List.append_assoc, List.drop_left' (by simp)]
    have count : before.length + run + after.length = 8 := by
      rw [← eight, split]
      simp
      omega
    have shown : (colons before ++ "::" ++ colons after).toList
        = (colons before).toList ++ (':' :: ':' :: (colons after).toList) := by
      simp
    rw [first, last, shown, readV6_double_colon (by omega) count, List.append_assoc, ← split]
    exact ofGroups_toList groups

/-- A group is the group of its octets. -/
theorem groupOf_groupOctets (g : UInt16) :
    groupOf (UInt8.ofNat (g.toNat / 256)) (UInt8.ofNat (g.toNat % 256)) = g := by
  have small : g.toNat < 65536 := g.toNat_lt
  have high : (UInt8.ofNat (g.toNat / 256)).toNat = g.toNat / 256 := by
    rw [UInt8.toNat_ofNat']
    omega
  have low : (UInt8.ofNat (g.toNat % 256)).toNat = g.toNat % 256 := by
    rw [UInt8.toNat_ofNat']
    omega
  have value : g.toNat / 256 * 256 + g.toNat % 256 = g.toNat := by omega
  rw [groupOf, high, low, value, UInt16.ofNat_toNat]

/-- The group `ffff` and four octets are three groups. -/
theorem readGroups_mapped {four : List Char} {a b c d : UInt8}
    (octets : readV4Front? four = some (#v[a, b, c, d], [])) :
    readGroups true 7 ('f' :: 'f' :: 'f' :: 'f' :: ':' :: four)
      = ([0xFFFF, groupOf a b, groupOf c d], true, []) := by
  have front : readV4Front? ('f' :: 'f' :: 'f' :: 'f' :: ':' :: four) = none := rfl
  have number : readNumber? 16 4 65536 true ('f' :: 'f' :: 'f' :: 'f' :: ':' :: four)
      = some (65535, ':' :: four) := by
    have digits : Nat.toDigits 16 (0xFFFF : UInt16).toNat = ['f', 'f', 'f', 'f'] := by decide
    have read := readGroup 0xFFFF (noDigit_colon four)
    rwa [digits] at read
  have last : readGroups false 6 (':' :: four) = ([groupOf a b, groupOf c d], true, []) := by
    have start : dropColon? false (':' :: four) = some four := rfl
    rw [readGroups, start]
    simp only [Nat.reduceEqDiff, if_false, octets]
    rfl
  have start : dropColon? true ('f' :: 'f' :: 'f' :: 'f' :: ':' :: four) = some _ := rfl
  rw [readGroups, start]
  simp only [front, ite_self, number, last]
  rfl

/-- The notation of an address that maps a version 4 address. -/
theorem readV6_mapped (g h : UInt16) :
    readV6? ("::ffff:" ++ dotted (groupOctets g ++ groupOctets h)).toList
      = ofGroups? [0, 0, 0, 0, 0, 0xFFFF, g, h] := by
  have octets := readV4Front_dotted (UInt8.ofNat (g.toNat / 256)) (UInt8.ofNat (g.toNat % 256))
    (UInt8.ofNat (h.toNat / 256)) (UInt8.ofNat (h.toNat % 256))
  have tail := readGroups_mapped octets
  rw [groupOf_groupOctets, groupOf_groupOctets] at tail
  have head (rest : List Char) :
      readGroups true 8 (':' :: ':' :: rest) = ([], false, ':' :: ':' :: rest) := rfl
  have opening : "::ffff:".toList = [':', ':', 'f', 'f', 'f', 'f', ':'] := by decide
  rw [String.toList_append, opening]
  exact readV6_of_parts (by decide) (head _) tail

/-! ## Both versions -/

/-- No text of version 6 reads as one of version 4, so `read?` may try that first. -/
theorem readV4_of_v6 (groups : Vector UInt16 8) : readV4? (text (.v6 groups)).toList = none := by
  have none {s : String} (h : readV4Front? s.toList = none) : readV4? s.toList = none := by
    rw [readV4?, h]
  apply none
  unfold text
  dsimp only
  split
  · rw [String.toList_append]
    rfl
  · apply readV4Front_of_no_point
    unfold compressed
    split
    split
    · exact no_point_colons _
    · simp only [String.toList_append, List.mem_append, not_or]
      exact ⟨⟨no_point_colons _, by decide⟩, no_point_colons _⟩

/-- **The text of an address is read back as the address.** -/
theorem read_text (a : Address) : read? a.text.toList = some a := by
  cases a with
  | v4 octets =>
    have read : readV4? (text (.v4 octets)).toList = some (.v4 octets) := readV4_dotted octets
    rw [read?, read]
    rfl
  | v6 groups =>
    -- Version 4 is tried first, and stops at the first colon.
    rw [read?, readV4_of_v6]
    change readV6? _ = _
    unfold text
    dsimp only
    split
    · rename_i g h mapped
      rw [readV6_mapped, ← mapped]
      exact ofGroups_toList groups
    · exact readV6_compressed groups

end Conform.Net.Address
