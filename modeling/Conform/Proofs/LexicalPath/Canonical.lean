import Conform.Proofs.LexicalPath

/-!
# Canonical paths

The normal form of a path is a canonical name of where it leads: it has no segment that could be left
out, more can be put behind it as well as behind the path, and it is the same for two paths if and only if
both start at the root or neither does, they lead up as far, and then down by the same names.
-/

namespace Conform.LexicalPath

open Conform.Text

variable {p : List Char}

/-- The segments of a path behind the slash of the root. -/
def segments (cs : List Char) : List (List Char) :=
  (if isRooted cs then cs.tail else cs).splitOn '/'

/-- How many double dots lead up from where the path starts. They cannot lead up from the root. -/
def unresolved (cs : List Char) : Nat :=
  if isRooted cs then 0 else (course (segments cs)).ups

/-- The names that no double dots take away. -/
def remaining (cs : List Char) : List (List Char) :=
  (course (segments cs)).names

/-- A path without segments that could be left out. -/
structure Canonical (q : List Char) : Prop where
  clean : q = ['.'] ∨ q = ['/'] ∨ ∀ s ∈ segments q, s ≠ [] ∧ s ≠ ['.']
  dots : ∃ n names, segments q = List.replicate n ['.', '.'] ++ names ∧ ['.', '.'] ∉ names ∧
    (isRooted q = true → n = 0)

/-- Empty pieces and single dots do not matter to the course. -/
theorem course_pieces (cs : List Char) : course (pieces '/' cs) = course (segments cs) := by
  rw [segments, ← pieces_eq_splitOn]
  split
  · rename_i rooted
    obtain ⟨rest, rfl⟩ : ∃ rest, cs = '/' :: rest := by
      cases cs with
      | nil => cases rooted
      | cons c rest => exact ⟨rest, by simpa [isRooted] using rooted⟩
    exact course_skip (.inl rfl) [] (pieces '/' rest)
  · rfl

/-- What is kept of a path, from what its segments lead to. -/
theorem exists_segments (cs : List Char) : ∃ s : Segments, s.absolute = isRooted cs ∧
    kept cs = s.all.reverse ∧ s.ups = unresolved cs ∧ s.names = remaining cs := by
  obtain ⟨s, absolute, all, names, ups⟩ := exists_kept cs
  rw [course_pieces] at names ups
  refine ⟨s, absolute, all, ?_, names⟩
  unfold unresolved
  split
  · rename_i rooted
    exact s.root (absolute.trans rooted)
  · rename_i relative
    exact ups (Bool.eq_false_iff.2 relative)

/-! ## The form -/

/-- The spelling of segments has these segments. -/
theorem segments_spell {s : Segments} (h : s.all ≠ []) : segments (spell s.absolute s.all) = s.all := by
  have cut := List.splitOn_intercalate '/' s.slash_not_mem h
  rw [segments, isRooted_spell]
  cases s.absolute with
  | true => exact cut
  | false =>
    rw [spell_relative h]
    exact cut

/-- Every spelling of segments is in canonical form. -/
theorem canonical_spell (s : Segments) : Canonical (spell s.absolute s.all) := by
  by_cases none : s.all = []
  · rw [none]
    cases s.absolute with
    | true => exact ⟨.inr (.inl rfl), 0, [[]], by decide, by decide, fun _ => rfl⟩
    | false => exact ⟨.inl rfl, 0, [['.']], by decide, by decide, fun _ => rfl⟩
  · have clean : ∀ p ∈ s.all, p ≠ [] ∧ p ≠ ['.'] := by
      intro p hp
      rcases List.mem_append.1 hp with up | name
      · rw [List.eq_of_mem_replicate up]
        decide
      · exact ⟨(s.named p name).ne_nil, (s.named p name).ne_dot⟩
    refine ⟨.inr (.inr ?_), s.ups, s.names, segments_spell none, ?_, ?_⟩
    · rw [segments_spell none]
      exact clean
    · intro dots
      exact (s.named _ dots).ne_dots rfl
    · rw [isRooted_spell]
      exact s.root

/-! ## More behind a path -/

/-- A path behind another goes on from what the first one kept. -/
theorem normalize_append (h : p ≠ []) (r : List Char) : normalize? (p ++ '/' :: r) =
    some (spell (isRooted p) ((pieces '/' r).foldl (resolve (isRooted p)) (kept p)).reverse) := by
  obtain ⟨c, cs, rfl⟩ := List.exists_cons_of_ne_nil h
  have rooted : isRooted (c :: cs ++ '/' :: r) = isRooted (c :: cs) := rfl
  have more : kept (c :: cs ++ '/' :: r)
      = (pieces '/' r).foldl (resolve (isRooted (c :: cs))) (kept (c :: cs)) := by
    rw [kept, rooted, pieces_append, List.foldl_append, kept]
  rw [normalize_of_ne_nil (by simp), rooted, more]

/-! ## Where paths lead -/

/-- Different segments are spelled differently. -/
theorem spell_injective {s t : Segments} (h : spell s.absolute s.all = spell t.absolute t.all) :
    s.absolute = t.absolute ∧ s.ups = t.ups ∧ s.names = t.names := by
  have absolute := congrArg isRooted h
  rw [isRooted_spell, isRooted_spell] at absolute
  have all := congrArg kept h
  rw [kept_spell, kept_spell] at all
  have courses := congrArg course (List.reverse_inj.1 all)
  rw [course_all, course_all] at courses
  exact ⟨absolute, congrArg Course.ups courses, congrArg Course.names courses⟩

/-- **Normal forms of paths are canonical.** The normal form of a path is rooted if the path is, has no
segment that could be left out, is its own normal form, and may stand for the path in front of more
segments. Two paths have one normal form if and only if both are rooted or neither is, as many double
dots are left unresolved, and the same names remain. -/
theorem normal_form_canonical {p : List Char} (h : p ≠ []) :
    (∃ q, normalize? p = some q ∧ isRooted q = isRooted p ∧ Canonical q ∧ normalize? q = some q ∧
      ∀ r, normalize? (p ++ '/' :: r) = normalize? (q ++ '/' :: r)) ∧
    ∀ p' ≠ [], (normalize? p = normalize? p' ↔
      isRooted p = isRooted p' ∧ unresolved p = unresolved p' ∧ remaining p = remaining p') := by
  obtain ⟨s, absolute, all, ups, names⟩ := exists_segments p
  have normal : normalize? p = some (spell s.absolute s.all) := by
    rw [normalize_of_ne_nil h, all, List.reverse_reverse, absolute]
  refine ⟨⟨spell s.absolute s.all, normal, ?_, canonical_spell s, normalize_of_normal ⟨s, rfl⟩, ?_⟩, ?_⟩
  · rw [isRooted_spell, absolute]
  · intro r
    rw [normalize_append h, normalize_append (spell_ne_nil s), isRooted_spell, kept_spell, all, absolute]
  · intro p' h'
    obtain ⟨t, absolute', all', ups', names'⟩ := exists_segments p'
    rw [normal, normalize_of_ne_nil h', all', List.reverse_reverse, ← absolute, ← absolute', ← ups, ← ups',
      ← names, ← names']
    constructor
    · intro same
      exact spell_injective (Option.some.inj same)
    · rintro ⟨sameRoot, sameUps, sameNames⟩
      rw [Segments.all, Segments.all, sameRoot, sameUps, sameNames]

/-- A path that leads up twice and another to the same place; at the root, double dots lead nowhere. -/
theorem normal_form_canonical_sibling :
    let p : List Char := "../a/./../../b//c/../d/".toList
    let p' : List Char := "../../b/d".toList
    p ≠ [] ∧ normalize? p = some p' ∧ normalize? (p ++ '/' :: "../e".toList) = some "../../b/e".toList ∧
      unresolved p = 2 ∧ remaining p = ["b".toList, "d".toList] ∧ normalize? p = normalize? p' ∧
      normalize? "/../a".toList = normalize? "/a".toList := by
  intro p p'
  have text : p ≠ [] := by decide
  have text' : p' ≠ [] := by decide
  obtain ⟨⟨q, normal, -, -, -, more⟩, same⟩ := normal_form_canonical text
  have hq : normalize? p = some p' := by decide +kernel
  rw [Option.some.inj (normal.symm.trans hq)] at more
  have rooted := (normal_form_canonical (p := "/../a".toList) (by decide)).2 "/a".toList (by decide)
  refine ⟨text, hq, (more _).trans (by decide +kernel), by decide +kernel, by decide +kernel,
    (same p' text').2 (by decide +kernel), rooted.2 (by decide +kernel)⟩

end Conform.LexicalPath
