import Conform.Text.Blank

/-!
# Cutting blanks off

What is left when blanks are cut off the ends of a text has none at its ends, and such a text is not
changed by cutting.
-/

namespace Conform.Text

variable {cs : List Char} {c : Char}

/-- A text without blanks at its ends. -/
structure Trimmed (cs : List Char) : Prop where
  first : ∀ c ∈ cs.head?, isBlank c = false
  last : ∀ c ∈ cs.getLast?, isBlank c = false

theorem trimLeft_of_first (h : ∀ c ∈ cs.head?, isBlank c = false) : trimLeft cs = cs := by
  cases cs with
  | nil => rfl
  | cons c cs => exact List.dropWhile_cons_of_neg (by simp [h c rfl])

theorem trimRight_of_last (h : ∀ c ∈ cs.getLast?, isBlank c = false) : trimRight cs = cs := by
  rw [← List.head?_reverse] at h
  change (trimLeft cs.reverse).reverse = cs
  rw [trimLeft_of_first h, List.reverse_reverse]

/-- Trimming changes nothing that begins and ends without a blank. -/
theorem trim_of_trimmed (h : Trimmed cs) : trim cs = cs := by
  rw [trim, trimLeft_of_first h.first, trimRight_of_last h.last]

theorem trim_of_no_blank (h : ∀ c ∈ cs, isBlank c = false) : trim cs = cs :=
  trim_of_trimmed ⟨fun c hc => h c (List.mem_of_mem_head? hc),
    fun c hc => h c (List.mem_of_mem_getLast? hc)⟩

/-- A text between two characters that are no blanks. -/
theorem trimmed_enclosed {first last : Char} (hfirst : isBlank first = false)
    (hlast : isBlank last = false) (cs : List Char) : Trimmed (first :: (cs ++ [last])) where
  first c hc := by
    obtain rfl := Option.some.inj hc
    exact hfirst
  last c hc := by
    rw [← List.cons_append, List.getLast?_concat] at hc
    obtain rfl := Option.some.inj hc
    exact hlast

/-- The characters of ASCII that print, but for the space, are no blanks. -/
theorem not_blank_of_bounds (low : 33 ≤ c.toNat) (high : c.toNat ≤ 126) : isBlank c = false := by
  have clear : ∀ r ∈ blankRanges, r.2 < 33 ∨ 126 < r.1 := by decide
  rw [Bool.eq_false_iff]
  intro blank
  obtain ⟨r, hr, first, last⟩ := inRanges_iff.1 blank
  have := clear r hr
  omega

/-! ## Blanks around a text -/

theorem trimLeft_blanks_append {blanks : List Char} (h : ∀ c ∈ blanks, isBlank c = true)
    (cs : List Char) : trimLeft (blanks ++ cs) = trimLeft cs :=
  List.dropWhile_append_of_pos h

theorem trimLeft_blanks (h : ∀ c ∈ cs, isBlank c = true) : trimLeft cs = [] := by
  have dropped := trimLeft_blanks_append h []
  rwa [List.append_nil] at dropped

theorem trimRight_append_blanks {blanks : List Char} (h : ∀ c ∈ blanks, isBlank c = true)
    (cs : List Char) : trimRight (cs ++ blanks) = trimRight cs := by
  change (trimLeft (cs ++ blanks).reverse).reverse = (trimLeft cs.reverse).reverse
  rw [List.reverse_append, trimLeft_blanks_append fun c hc => h c (List.mem_reverse.1 hc)]

/-- Blanks put around a text are cut off again. -/
theorem trim_between_blanks {before after : List Char} (hbefore : ∀ c ∈ before, isBlank c = true)
    (hafter : ∀ c ∈ after, isBlank c = true) (cs : List Char) :
    trim (before ++ cs ++ after) = trim cs := by
  rw [List.append_assoc, trim, trimLeft_blanks_append hbefore, trimLeft, List.dropWhile_append]
  split
  · rename_i blank
    have none : trimLeft cs = [] := List.isEmpty_iff.1 blank
    have rest : after.dropWhile isBlank = [] := trimLeft_blanks hafter
    rw [trim, none, rest]
  · exact trimRight_append_blanks hafter (trimLeft cs)

/-! ## What is left -/

theorem exists_append_trimLeft (cs : List Char) :
    ∃ blanks, (∀ c ∈ blanks, isBlank c = true) ∧ blanks ++ trimLeft cs = cs :=
  ⟨cs.takeWhile isBlank, List.all_eq_true.1 List.all_takeWhile, List.takeWhile_append_dropWhile⟩

theorem exists_trimRight_append (cs : List Char) :
    ∃ blanks, (∀ c ∈ blanks, isBlank c = true) ∧ trimRight cs ++ blanks = cs := by
  obtain ⟨blanks, blank, whole⟩ := exists_append_trimLeft cs.reverse
  refine ⟨blanks.reverse, fun c hc => blank c (List.mem_reverse.1 hc), ?_⟩
  change (trimLeft cs.reverse).reverse ++ blanks.reverse = cs
  rw [← List.reverse_append, whole, List.reverse_reverse]

/-- What is cut off a text are blanks. -/
theorem exists_trim_between (cs : List Char) : ∃ before after, (∀ c ∈ before, isBlank c = true) ∧
    (∀ c ∈ after, isBlank c = true) ∧ before ++ trim cs ++ after = cs := by
  obtain ⟨before, hbefore, left⟩ := exists_append_trimLeft cs
  obtain ⟨after, hafter, right⟩ := exists_trimRight_append (trimLeft cs)
  exact ⟨before, after, hbefore, hafter, by rw [List.append_assoc, trim, right, left]⟩

theorem mem_of_mem_trim (h : c ∈ trim cs) : c ∈ cs := by
  obtain ⟨before, after, -, -, whole⟩ := exists_trim_between cs
  rw [← whole]
  exact List.mem_append_left _ (List.mem_append_right _ h)

theorem length_trim_le (cs : List Char) : (trim cs).length ≤ cs.length := by
  obtain ⟨before, after, -, -, whole⟩ := exists_trim_between cs
  have total := congrArg List.length whole
  rw [List.length_append, List.length_append] at total
  omega

/-- Nothing is left of blanks alone, and of nothing else. -/
theorem trim_eq_nil_iff : trim cs = [] ↔ ∀ c ∈ cs, isBlank c = true := by
  constructor
  · intro empty
    obtain ⟨before, after, hbefore, hafter, whole⟩ := exists_trim_between cs
    rw [← whole, empty, List.append_nil]
    exact List.forall_mem_append.2 ⟨hbefore, hafter⟩
  · intro blank
    rw [trim, trimLeft_blanks blank]
    rfl

theorem first_trimLeft (h : c ∈ (trimLeft cs).head?) : isBlank c = false := by
  have dropped := List.head?_dropWhile_not isBlank cs
  rw [trimLeft] at h
  rwa [Option.mem_def.1 h] at dropped

theorem trimmed_trim (cs : List Char) : Trimmed (trim cs) where
  first c hc := by
    obtain ⟨rest, -, whole⟩ := exists_trimRight_append (trimLeft cs)
    have first : (trimLeft cs).head? = some c := by
      rw [← whole, List.head?_append, show (trimRight (trimLeft cs)).head? = some c from hc]
      rfl
    exact first_trimLeft first
  last c hc := by
    rw [trim, trimRight, List.getLast?_reverse] at hc
    exact first_trimLeft hc

end Conform.Text
