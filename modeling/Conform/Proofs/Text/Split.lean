import Conform.Text.Split

/-!
# Pieces and joined texts

Joining pieces that have no separator in them and cutting the text again gives the pieces back; the
pieces of any text have no separator in them.
-/

namespace Conform.Text

/-- Cutting at a separator is the library's `splitOn`. -/
theorem pieces_eq_splitOn (sep : Char) (cs : List Char) : pieces sep cs = cs.splitOn sep := by
  induction cs with
  | nil => rfl
  | cons c cs ih =>
    rw [pieces, List.splitOn_cons_eq_if_modifyHead, ← ih]
    by_cases h : c = sep
    · rw [if_pos h, if_pos (beq_iff_eq.2 h)]
    · rw [if_neg h, if_neg (fun e => h (beq_iff_eq.1 e))]
      cases hp : pieces sep cs with
      | nil => exact absurd hp (pieces_ne_nil sep cs)
      | cons p ps => rfl

/-- Parts that are free of the separator are cut apart where they were joined. -/
theorem pieces_intercalate {sep : Char} {parts : List (List Char)} (ne : parts ≠ [])
    (free : ∀ p ∈ parts, sep ∉ p) : pieces sep (List.intercalate [sep] parts) = parts := by
  rw [pieces_eq_splitOn]
  exact List.splitOn_intercalate sep free ne

theorem not_mem_of_mem_pieces {sep : Char} {cs p : List Char} (h : p ∈ pieces sep cs) : sep ∉ p := by
  induction cs generalizing p with
  | nil =>
    obtain rfl : p = [] := List.mem_singleton.1 h
    exact List.not_mem_nil
  | cons c cs ih =>
    rw [pieces] at h
    split at h
    · rcases List.mem_cons.1 h with rfl | h
      · exact List.not_mem_nil
      · exact ih h
    · rename_i differ
      cases hp : pieces sep cs with
      | nil => exact absurd hp (pieces_ne_nil sep cs)
      | cons q qs =>
        rw [hp] at h
        rcases List.mem_cons.1 h with rfl | h
        · rw [List.mem_cons]
          rintro (rfl | mem)
          · exact differ rfl
          · exact ih (hp ▸ List.mem_cons_self) mem
        · exact ih (hp ▸ List.mem_cons_of_mem _ h)

/-- A separator between two texts separates their pieces. -/
theorem pieces_append (sep : Char) (front back : List Char) :
    pieces sep (front ++ sep :: back) = pieces sep front ++ pieces sep back := by
  induction front with
  | nil =>
    show pieces sep (sep :: back) = [] :: pieces sep back
    rw [pieces, if_pos rfl]
  | cons c cs ih =>
    rw [List.cons_append, pieces, pieces, ih]
    split
    · rfl
    · cases hp : pieces sep cs with
      | nil => exact absurd hp (pieces_ne_nil sep cs)
      | cons p ps => rfl

/-- What the first part begins with, the joined parts begin with. -/
theorem intercalate_append_cons (sep front p : List Char) (ps : List (List Char)) :
    List.intercalate sep ((front ++ p) :: ps) = front ++ List.intercalate sep (p :: ps) := by
  cases ps with
  | nil => rw [List.intercalate_singleton, List.intercalate_singleton]
  | cons q qs =>
    rw [List.intercalate_cons_cons, List.intercalate_cons_cons, List.append_assoc, List.append_assoc,
      List.append_assoc]

/-- A longer separator is its first character with the others in front of each part but the first. -/
theorem intercalate_cons_sep (c : Char) (sep p : List Char) (ps : List (List Char)) :
    List.intercalate (c :: sep) (p :: ps) = List.intercalate [c] (p :: ps.map (sep ++ ·)) := by
  induction ps generalizing p with
  | nil => rfl
  | cons q qs ih =>
    rw [List.map_cons, List.intercalate_cons_cons, List.intercalate_cons_cons,
      intercalate_append_cons, ih, List.append_assoc, List.append_assoc]
    rfl

theorem mem_intercalate {sep : List Char} {parts : List (List Char)} {c : Char}
    (h : c ∈ List.intercalate sep parts) : c ∈ sep ∨ ∃ p ∈ parts, c ∈ p := by
  induction parts with
  | nil => cases h
  | cons p ps ih =>
    cases ps with
    | nil =>
      rw [List.intercalate_singleton] at h
      exact .inr ⟨p, List.mem_cons_self, h⟩
    | cons q qs =>
      rw [List.intercalate_cons_cons] at h
      rcases List.mem_append.1 h with h | h
      · rcases List.mem_append.1 h with h | h
        · exact .inr ⟨p, List.mem_cons_self, h⟩
        · exact .inl h
      · rcases ih h with h | ⟨p', hp', h⟩
        · exact .inl h
        · exact .inr ⟨p', List.mem_cons_of_mem _ hp', h⟩

theorem mem_join {sep : String} {parts : List String} {c : Char} (h : c ∈ (join sep parts).toList) :
    c ∈ sep.toList ∨ ∃ p ∈ parts, c ∈ p.toList := by
  rw [join, String.toList_ofList] at h
  rcases mem_intercalate h with h | ⟨p, hp, h⟩
  · exact .inl h
  · obtain ⟨q, hq, rfl⟩ := List.mem_map.1 hp
    exact .inr ⟨q, hq, h⟩

/-! ## The first separator and the end -/

theorem cut_append {sep : Char} {before : List Char} (free : sep ∉ before) (after : List Char) :
    cut sep (before ++ sep :: after) = some (before, after) := by
  induction before with
  | nil => exact if_pos rfl
  | cons c cs ih =>
    rw [List.mem_cons, not_or] at free
    rw [List.cons_append, cut, if_neg (Ne.symm free.1), ih free.2]
    rfl

theorem dropEnd_append (cs ending : List Char) : dropEnd? ending (cs ++ ending) = some cs := by
  have ends : ending.isSuffixOf (cs ++ ending) = true :=
    List.isSuffixOf_iff_suffix.2 (List.suffix_append cs ending)
  rw [dropEnd?, if_pos ends, List.length_append, Nat.add_sub_cancel, List.take_left]

/-- An ending comes off iff the text ends in it. -/
theorem dropEnd_eq_some_iff {ending cs front : List Char} :
    dropEnd? ending cs = some front ↔ front ++ ending = cs := by
  constructor
  · intro h
    unfold dropEnd? at h
    split at h
    · rename_i ends
      obtain ⟨before, rfl⟩ := List.isSuffixOf_iff_suffix.1 ends
      rw [List.length_append, Nat.add_sub_cancel, List.take_left] at h
      rw [Option.some.inj h]
    · cases h
  · rintro rfl
    exact dropEnd_append front ending

/-! ## Lower case -/

/-- A letter of the ASCII upper case. -/
def IsUpper (c : Char) : Prop :=
  'A' ≤ c ∧ c ≤ 'Z'

instance (c : Char) : Decidable (IsUpper c) :=
  inferInstanceAs (Decidable (_ ∧ _))

theorem lowerAscii_of_not_upper {c : Char} (h : ¬IsUpper c) : lowerAscii c = c :=
  if_neg h

theorem toNat_of_upper {c : Char} (h : IsUpper c) : 65 ≤ c.toNat ∧ c.toNat ≤ 90 :=
  h

theorem toNat_lowerAscii {c : Char} (h : IsUpper c) : (lowerAscii c).toNat = c.toNat + 32 := by
  have bounds := toNat_of_upper h
  have valid : (c.toNat + 32).isValidChar := .inl (by omega)
  have shifted : lowerAscii c = Char.ofNat (c.toNat + 32) := if_pos h
  rw [shifted, Char.ofNat, dif_pos valid]
  exact UInt32.toNat_ofNatLT

theorem not_upper_lowerAscii (c : Char) : ¬IsUpper (lowerAscii c) := by
  by_cases h : IsUpper c
  · intro upper
    have low := toNat_of_upper h
    have high := toNat_of_upper upper
    rw [toNat_lowerAscii h] at high
    omega
  · rwa [lowerAscii_of_not_upper h]

/-- Folding neither makes nor unmakes characters below the letters: digits, signs and punctuation. -/
theorem lowerAscii_eq_iff {c x : Char} (h : x.toNat < 65) : lowerAscii c = x ↔ c = x := by
  by_cases upper : IsUpper c
  · have bounds := toNat_of_upper upper
    have shifted := toNat_lowerAscii upper
    constructor
    · rintro rfl
      omega
    · rintro rfl
      omega
  · rw [lowerAscii_of_not_upper upper]

theorem map_lowerAscii {cs : List Char} (h : ∀ c ∈ cs, ¬IsUpper c) : cs.map lowerAscii = cs := by
  induction cs with
  | nil => rfl
  | cons c cs ih =>
    obtain ⟨here, rest⟩ := List.forall_mem_cons.1 h
    rw [List.map_cons, lowerAscii_of_not_upper here, ih rest]

end Conform.Text
