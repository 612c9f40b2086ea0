import Conform.Proofs.Text.Blank
import Conform.Proofs.Text.Digits
import Conform.Proofs.Text.Split
import Conform.Tag.Basic

/-!
# Spellings of tags

A tag's spelling is read back as the tag, whatever its bounds, members and arguments are, unless it is an
enumeration with a member that cannot stand among arguments: one that is empty, has a comma in it or a
blank at an end. Reading never gives such an enumeration, so all that is read is read back from its own
spelling.
-/

namespace Conform.Tag

open Conform.Text

variable {tag : Tag} {cs : List Char} {a : List Char}

/-- A text that can stand among arguments: it is not cut, trimmed or left out. -/
structure IsArgument (a : List Char) : Prop where
  nonempty : a ≠ []
  uncut : ',' ∉ a
  trimmed : Trimmed a

/-- A tag all of whose members can stand among arguments. -/
def Spellable : Tag → Prop
  | .enumeration members => ∀ m ∈ members, IsArgument m.name.toList
  | _ => True

/-! ## Arguments -/

theorem isArgument_of_mem (h : a ∈ readArguments cs) : IsArgument a := by
  obtain ⟨mem, nonempty⟩ := List.mem_filter.1 h
  obtain ⟨piece, hpiece, rfl⟩ := List.mem_map.1 mem
  refine ⟨fun empty => ?_, fun comma => ?_, trimmed_trim piece⟩
  · rw [empty] at nonempty
    cases nonempty
  · exact not_mem_of_mem_pieces hpiece (mem_of_mem_trim comma)

/-- Arguments that were joined by commas are read apart again. -/
theorem readArguments_intercalate {arguments : List (List Char)}
    (h : ∀ a ∈ arguments, IsArgument a) :
    readArguments (List.intercalate [','] arguments) = arguments := by
  by_cases none : arguments = []
  · rw [none]
    rfl
  · have trimmed : arguments.map trim = arguments :=
      List.map_congr_left (fun a ha => trim_of_trimmed (h a ha).trimmed) |>.trans arguments.map_id
    rw [readArguments, pieces_intercalate none fun a ha => (h a ha).uncut, trimmed]
    exact List.filter_eq_self.2 fun a ha => by simpa using (h a ha).nonempty

/-- A name that arguments can be put behind: not empty, without parentheses and blanks. -/
def isName (name : List Char) : Bool :=
  !name.isEmpty && name.all fun c => c != '(' && !isBlank c

/-- A name with arguments is read as the name and the arguments. -/
theorem read_applied {name : String} {arguments : List String} (named : isName name.toList = true)
    (h : ∀ a ∈ arguments, IsArgument a.toList) :
    read? (applied name arguments).toList = ofApplied? name (arguments.map String.toList) := by
  have inner : readArguments (List.intercalate [','] (arguments.map String.toList))
      = arguments.map String.toList := by
    apply readArguments_intercalate
    intro a ha
    obtain ⟨s, hs, rfl⟩ := List.mem_map.1 ha
    exact h s hs
  have whole : (applied name arguments).toList =
      name.toList ++ '(' :: (List.intercalate [','] (arguments.map String.toList) ++ [')']) := by
    simp [applied, join]
  obtain ⟨nonempty, clean⟩ : name.toList ≠ [] ∧ ∀ c ∈ name.toList, c ≠ '(' ∧ isBlank c = false := by
    simpa [isName] using named
  have uncut : '(' ∉ name.toList := fun mem => (clean '(' mem).1 rfl
  have trimmed : Trimmed (applied name arguments).toList := by
    obtain ⟨c, cs, text⟩ := List.exists_cons_of_ne_nil nonempty
    have first : isBlank c = false := (clean c (text ▸ List.mem_cons_self)).2
    have last : isBlank ')' = false := by decide
    have enclosed := trimmed_enclosed first last
      (cs ++ '(' :: List.intercalate [','] (arguments.map String.toList))
    rw [whole, text]
    simpa using enclosed
  rw [read?, trim_of_trimmed trimmed, whole, cut_append uncut]
  dsimp only
  rw [dropEnd_append, Option.bind_some, inner, trim_of_no_blank fun c hc => (clean c hc).2,
    String.ofList_toList]

/-! ## Numbers as arguments -/

/-- A character that may stand anywhere in an argument. -/
def isArgumentChar (c : Char) : Bool :=
  c != ',' && !isBlank c

/-- A text of characters that are neither commas nor blanks can stand among arguments. -/
theorem isArgument_of_all (nonempty : a ≠ []) (h : a.all isArgumentChar = true) : IsArgument a := by
  have clean : ∀ c ∈ a, c ≠ ',' ∧ isBlank c = false := by simpa [isArgumentChar] using h
  exact ⟨nonempty, fun comma => (clean ',' comma).1 rfl,
    fun c hc => (clean c (List.mem_of_mem_head? hc)).2,
    fun c hc => (clean c (List.mem_of_mem_getLast? hc)).2⟩

theorem isArgumentChar_digitChar : ∀ d < 10, isArgumentChar (Nat.digitChar d) = true := by
  decide

theorem all_toDigits (n : Nat) : (Nat.toDigits 10 n).all isArgumentChar = true := by
  rw [List.all_eq_true]
  intro c hc
  obtain ⟨d, hd, rfl⟩ := mem_toDigits (by decide) hc
  exact isArgumentChar_digitChar d hd

theorem isArgument_decimal (n : Nat) : IsArgument (decimal n).toList := by
  rw [decimal, String.toList_ofList]
  exact isArgument_of_all Nat.toDigits_ne_nil (all_toDigits n)

theorem isArgument_decimalInt (i : Int) : IsArgument (decimalInt i).toList := by
  unfold decimalInt
  split
  · rw [String.toList_ofList]
    exact isArgument_of_all (List.cons_ne_nil _ _) (all_toDigits i.natAbs)
  · exact isArgument_decimal i.natAbs

theorem isArgument_boundText (b : Option Int64) : IsArgument (boundText b).toList := by
  cases b with
  | none => exact isArgument_of_all (List.cons_ne_nil _ _) rfl
  | some i => exact isArgument_decimalInt i.toInt

theorem readInt64_decimalInt (i : Int64) : readInt64? (decimalInt i.toInt).toList = some i := by
  rw [readInt64?, readInt_decimalInt, Option.bind_some]
  exact toInt64?_eq_some_iff.2 rfl

theorem mapM_readInt64 (members : List Int64) :
    (members.mapM fun i => readInt64? (decimalInt i.toInt).toList) = some members := by
  induction members with
  | nil => rfl
  | cons i is ih =>
    rw [List.mapM_cons, readInt64_decimalInt, ih]
    rfl

theorem readBound_boundText (b : Option Int64) : readBound? (boundText b).toList = some b := by
  cases b with
  | none => rfl
  | some i =>
    have digits : (decimalInt i.toInt).toList ≠ ['_'] := fun underscore => by
      have read := readInt_decimalInt i.toInt
      rw [underscore] at read
      cases read
    rw [boundText, readBound?, if_neg digits, readInt64_decimalInt]
    rfl

theorem readArity_decimal (arity : UInt8) : readArity? (decimal arity.toNat).toList = some arity := by
  have small : arity.toNat < 256 := arity.toNat_lt
  rw [readArity?, decimal, String.toList_ofList, readUnsigned_toDigits (by decide) (by decide),
    Option.bind_some, if_pos small, UInt8.ofNat_toNat]

/-! ## Spellings -/

theorem isArgument_precision (p : Time.Precision) : IsArgument p.name.toList := by
  cases p <;> exact isArgument_of_all (by decide) rfl

/-- The text of a spellable tag reads as the tag. -/
theorem read_text (h : tag.Spellable) : read? tag.text.toList = some tag := by
  cases tag with
  | enumeration members =>
    have arguments : ∀ a ∈ members.map Symbol.name, IsArgument a.toList := by
      simpa [Spellable] using h
    rw [text, read_applied rfl arguments]
    simp [ofApplied?, Function.comp_def]
  | range low high =>
    have arguments : ∀ a ∈ [boundText low, boundText high], IsArgument a.toList := by
      simp [isArgument_boundText]
    rw [text, read_applied rfl arguments]
    simp [ofApplied?, readBound_boundText]
  | oneOfIntegers members =>
    have arguments : ∀ a ∈ members.map fun i => decimalInt i.toInt, IsArgument a.toList := by
      simp [isArgument_decimalInt]
    rw [text, read_applied rfl arguments]
    simp [ofApplied?, mapM_readInt64, Function.comp_def]
  | function arity =>
    have arguments : ∀ a ∈ [decimal arity.toNat], IsArgument a.toList := by
      simp [isArgument_decimal]
    rw [text, read_applied rfl arguments]
    simp [ofApplied?, readArity_decimal]
  | timestamp precision =>
    have arguments : ∀ a ∈ [precision.name], IsArgument a.toList := by
      simp [isArgument_precision]
    rw [text, read_applied rfl arguments]
    simp [ofApplied?, Time.Precision.named_name]
  | _ => decide +kernel

/-- Only one name gives an enumeration, and the arguments are its members. -/
theorem members_of_applied {name : String} {arguments : List (List Char)} {members : List Symbol}
    (h : ofApplied? name arguments = some (.enumeration members)) :
    members = arguments.map fun a => ⟨String.ofList a⟩ := by
  unfold ofApplied? at h
  split at h
  · cases h
    rfl
  · grind [Option.map_eq_some_iff, Option.bind_eq_some_iff]

theorem spellable_of_applied {name : String} {arguments : List (List Char)}
    (h : ofApplied? name arguments = some tag) (argued : ∀ a ∈ arguments, IsArgument a) :
    tag.Spellable := by
  cases tag with
  | enumeration members =>
    obtain rfl := members_of_applied h
    intro m hm
    obtain ⟨a, ha, rfl⟩ := List.mem_map.1 hm
    rw [String.toList_ofList]
    exact argued a ha
  | _ => trivial

/-- Every tag that was read is spellable. -/
theorem spellable_of_read (h : read? cs = some tag) : tag.Spellable := by
  unfold read? at h
  dsimp only at h
  split at h
  · obtain ⟨entry, found, rfl⟩ := Option.map_eq_some_iff.1 h
    have listed := List.mem_of_find?_eq_some found
    have table : ∀ e ∈ plain ++ older, e.2.Spellable := by simp [plain, older, Spellable]
    exact table entry listed
  · obtain ⟨inner, -, applied⟩ := Option.bind_eq_some_iff.1 h
    exact spellable_of_applied applied fun a => isArgument_of_mem

/-- **A tag is read back from its spelling** if and only if it is no enumeration or each of its members
is not empty, without commas and without blanks at its ends. So whatever is read is read back from its
own spelling. -/
theorem reads_back_iff_spellable (tag : Tag) :
    (read? tag.text.toList = some tag ↔ tag.Spellable) ∧
      ∀ cs, read? cs = some tag → read? tag.text.toList = some tag :=
  ⟨⟨spellable_of_read, read_text⟩, fun _ h => read_text (spellable_of_read h)⟩

/-- Members with parentheses and a blank within, spelled loosely, and a member with a comma. -/
theorem reads_back_iff_spellable_handlers :
    let tag : Tag := .enumeration [⟨"retry(3)"⟩, ⟨"log all"⟩, ⟨")"⟩]
    let spelling : List Char := " enum ( retry(3) ,, log all,)) ".toList
    let cut : Tag := .enumeration [⟨"retry"⟩, ⟨"log,all"⟩]
    read? spelling = some tag ∧ read? tag.text.toList = some tag ∧ tag.Spellable ∧
      ¬cut.Spellable ∧ read? cut.text.toList ≠ some cut := by
  intro tag spelling cut
  have read : read? spelling = some tag := by decide +kernel
  obtain ⟨spellable, again⟩ := reads_back_iff_spellable tag
  have comma : ¬cut.Spellable := fun all => (all ⟨"log,all"⟩ (by decide)).uncut (by decide)
  exact ⟨read, again spelling read, spellable.1 (again spelling read), comma,
    fun back => comma ((reads_back_iff_spellable cut).1.1 back)⟩

end Conform.Tag
