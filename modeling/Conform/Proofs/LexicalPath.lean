import Conform.LexicalPath
import Conform.Proofs.Text.Split

/-!
# Normal paths

A path in normal form is a run of double dots, empty if the path is absolute, followed by names. What
normalizing keeps of a text's segments has this form all the time, by induction over the segments, and
a path that has it already is left as it is.

Where segments lead is also told without a stack, from right to left: double dots take away the nearest
name in front of them that is not taken away already. The same induction shows that normalizing keeps
just the double dots and the names that this leaves over.

`foldl_resolve_keeps` is this induction.
-/

namespace Conform.LexicalPath

open Conform.Text

/-- A segment that names something. -/
structure Named (segment : List Char) : Prop where
  ne_nil : segment ≠ []
  ne_dot : segment ≠ ['.']
  ne_dots : segment ≠ ['.', '.']
  slash : '/' ∉ segment

/-- Segments in normal form: `ups` double dots, then the names. -/
structure Segments where
  absolute : Bool
  ups : Nat
  names : List (List Char)
  named : ∀ name ∈ names, Named name
  root : absolute = true → ups = 0

namespace Segments

def all (s : Segments) : List (List Char) :=
  List.replicate s.ups ['.', '.'] ++ s.names

/-- The segments with one more name. -/
theorem all_reverse {absolute : Bool} {ups : Nat} {names : List (List Char)} {name : List Char}
    {named : ∀ p ∈ names ++ [name], Named p} {named' : ∀ p ∈ names, Named p}
    {root : absolute = true → ups = 0} :
    (Segments.mk absolute ups (names ++ [name]) named root).all.reverse
      = name :: (Segments.mk absolute ups names named' root).all.reverse := by
  rw [all, all, ← List.append_assoc, List.reverse_append]
  rfl

end Segments

/-- Where segments lead: so many levels up, then down by names. -/
structure Course where
  ups : Nat
  names : List (List Char)
deriving DecidableEq

/-- Where a segment and what comes after it lead. A name is taken away by double dots after it that
found no name nearer to them. -/
def Course.after (segment : List Char) (rest : Course) : Course :=
  if segment = [] ∨ segment = ['.'] then rest
  else if segment = ['.', '.'] then ⟨rest.ups + 1, rest.names⟩
  else match rest.ups with
    | 0 => ⟨0, segment :: rest.names⟩
    | n + 1 => ⟨n, rest.names⟩

def course (segments : List (List Char)) : Course :=
  segments.foldr Course.after ⟨0, []⟩

/-- Two courses that end in one place: at the root, one cannot go up. -/
structure Course.Meets (absolute : Bool) (a b : Course) : Prop where
  names : a.names = b.names
  ups : absolute = false → a.ups = b.ups

/-- The path of segments: with a slash in front if it is absolute, and one dot if it is not and there
are no segments. -/
def spell (absolute : Bool) (segments : List (List Char)) : List Char :=
  if absolute then '/' :: List.intercalate ['/'] segments
  else if (List.intercalate ['/'] segments).isEmpty then ['.']
  else List.intercalate ['/'] segments

/-- A path in normal form. -/
def Normal (cs : List Char) : Prop :=
  ∃ s : Segments, cs = spell s.absolute s.all

def isRooted (cs : List Char) : Bool :=
  cs.head? == some '/'

/-- The segments that normalizing keeps, the nearest first. -/
def kept (cs : List Char) : List (List Char) :=
  (pieces '/' cs).foldl (resolve (isRooted cs)) []

/-- A path that is not empty is normalized to the spelling of the segments that `kept` leaves. -/
theorem normalize_of_ne_nil {cs : List Char} (h : cs ≠ []) :
    normalize? cs = some (spell (isRooted cs) (kept cs).reverse) := by
  have text : ¬cs.isEmpty = true := fun e => h (List.isEmpty_iff.1 e)
  rw [normalize?, if_neg text, spell, kept, isRooted]
  dsimp only
  generalize (cs.head? == some '/') = absolute
  cases absolute with
  | true => rfl
  | false =>
    rw [if_neg Bool.false_ne_true, if_neg Bool.false_ne_true]
    split <;> rfl

/-! ## Courses -/

namespace Course

theorem Meets.refl (absolute : Bool) (a : Course) : Meets absolute a a :=
  ⟨rfl, fun _ => rfl⟩

/-- `Meets` is transitive. It relates courses that lead to one place, where an absolute path may go
up from the root in vain. -/
theorem Meets.trans {absolute : Bool} {a b c : Course} (hab : Meets absolute a b)
    (hbc : Meets absolute b c) : Meets absolute a c :=
  ⟨hab.names.trans hbc.names, fun relative => (hab.ups relative).trans (hbc.ups relative)⟩

theorem after_skip {segment : List Char} (h : segment = [] ∨ segment = ['.']) (rest : Course) :
    after segment rest = rest :=
  if_pos h

theorem after_dots (rest : Course) : after ['.', '.'] rest = ⟨rest.ups + 1, rest.names⟩ :=
  rfl

/-- A name in front of a course: a step up takes it away, otherwise it stays in front of the names. -/
theorem after_name {name : List Char} (h : Named name) (rest : Course) :
    after name rest = match rest.ups with
      | 0 => ⟨0, name :: rest.names⟩
      | n + 1 => ⟨n, rest.names⟩ := by
  simp [after, h.ne_nil, h.ne_dot, h.ne_dots]

end Course

/-- The course of a path is found from its end: each segment acts on the course of what follows it. -/
theorem course_append (front rest : List (List Char)) :
    course (front ++ rest) = front.foldr Course.after (course rest) :=
  List.foldr_append

/-- A name and the double dots after it lead nowhere. -/
theorem course_name_dots {name : List Char} (h : Named name) (front rest : List (List Char)) :
    course (front ++ name :: ['.', '.'] :: rest) = course (front ++ rest) := by
  have here : course (name :: ['.', '.'] :: rest) = course rest := Course.after_name h _
  rw [course_append, here, course_append]

theorem course_skip {segment : List Char} (h : segment = [] ∨ segment = ['.'])
    (front rest : List (List Char)) : course (front ++ segment :: rest) = course (front ++ rest) := by
  have here : course (segment :: rest) = course rest := Course.after_skip h _
  rw [course_append, here, course_append]

/-- Normal segments lead where they say. -/
theorem course_all (s : Segments) : course s.all = ⟨s.ups, s.names⟩ := by
  have down {names : List (List Char)} (named : ∀ name ∈ names, Named name) :
      course names = ⟨0, names⟩ := by
    induction names with
    | nil => rfl
    | cons name names ih =>
      obtain ⟨here, rest⟩ := List.forall_mem_cons.1 named
      show Course.after name (course names) = _
      rw [ih rest, Course.after_name here]
  rw [Segments.all, course_append, down s.named]
  induction s.ups with
  | zero => rfl
  | succ n ih => rw [List.replicate_succ, List.foldr_cons, ih, Course.after_dots]

/-! ## Segment by segment -/

theorem resolve_skip {segment : List Char} (h : segment = [] ∨ segment = ['.']) (absolute : Bool)
    (kept : List (List Char)) : resolve absolute kept segment = kept := by
  unfold resolve
  exact if_pos h

theorem resolve_name {segment : List Char} (h : Named segment) (absolute : Bool)
    (kept : List (List Char)) : resolve absolute kept segment = segment :: kept := by
  unfold resolve
  rw [if_neg (not_or.2 ⟨h.ne_nil, h.ne_dot⟩), if_neg h.ne_dots]

theorem resolve_dots_name {last : List Char} (h : last ≠ ['.', '.']) (absolute : Bool)
    (rest : List (List Char)) : resolve absolute (last :: rest) ['.', '.'] = rest := by
  unfold resolve
  rw [if_neg (by decide), if_pos rfl]
  dsimp only
  rw [if_pos h]

/-- Double dots add up where nothing can be taken away. -/
theorem resolve_dots_ups (n : Nat) : resolve false (List.replicate n ['.', '.']) ['.', '.']
    = List.replicate (n + 1) ['.', '.'] := by
  cases n with
  | zero => rfl
  | succ n => rfl

/-! ## What is kept is normal -/

/-- One more segment: the form stays, and where it leads with what comes after it. -/
theorem resolve_keeps (s : Segments) {segment : List Char} (slash : '/' ∉ segment) :
    ∃ s' : Segments, s'.absolute = s.absolute ∧
      resolve s.absolute s.all.reverse segment = s'.all.reverse ∧
      ∀ rest, Course.Meets s.absolute (course (s'.all ++ rest)) (course (s.all ++ segment :: rest)) := by
  obtain ⟨absolute, ups, names, named, root⟩ := s
  by_cases skip : segment = [] ∨ segment = ['.']
  · refine ⟨⟨absolute, ups, names, named, root⟩, rfl, resolve_skip skip _ _, fun rest => ?_⟩
    rw [course_skip skip]
    exact .refl _ _
  by_cases dots : segment = ['.', '.']
  · subst dots
    rcases List.eq_nil_or_concat names with rfl | ⟨front, last, split⟩
    · -- No name to take away: the double dots stay, unless at the root.
      cases absolute with
      | true =>
        obtain rfl : ups = 0 := root rfl
        exact ⟨⟨true, 0, [], named, root⟩, rfl, rfl, fun rest => ⟨rfl, by simp⟩⟩
      | false =>
        have more : Segments.all ⟨false, ups + 1, [], named, by simp⟩
            = Segments.all ⟨false, ups, [], named, root⟩ ++ [['.', '.']] := by
          simp [Segments.all, List.replicate_succ']
        refine ⟨⟨false, ups + 1, [], named, by simp⟩, rfl, ?_, fun rest => ?_⟩
        · rw [Segments.all, Segments.all, List.append_nil, List.append_nil, List.reverse_replicate,
            List.reverse_replicate]
          exact resolve_dots_ups ups
        · rw [more, List.append_assoc]
          exact .refl _ _
    · rw [List.concat_eq_append] at split
      subst split
      have name : Named last := named last (by simp)
      have front' (p : List Char) (hp : p ∈ front) : Named p := named p (by simp [hp])
      refine ⟨⟨absolute, ups, front, front', root⟩, rfl, ?_, fun rest => ?_⟩
      · rw [Segments.all_reverse]
        exact resolve_dots_name name.ne_dots _ _
      · have before : Segments.all ⟨absolute, ups, front ++ [last], named, root⟩ ++ ['.', '.'] :: rest
            = Segments.all ⟨absolute, ups, front, front', root⟩ ++ last :: ['.', '.'] :: rest := by
          simp [Segments.all]
        rw [before, course_name_dots name]
        exact .refl _ _
  · have name : Named segment :=
      ⟨fun e => skip (.inl e), fun e => skip (.inr e), dots, slash⟩
    have named' : ∀ p ∈ names ++ [segment], Named p := by
      intro p hp
      rcases List.mem_append.1 hp with hp | hp
      · exact named p hp
      · exact List.mem_singleton.1 hp ▸ name
    refine ⟨⟨absolute, ups, names ++ [segment], named', root⟩, rfl, ?_, fun rest => ?_⟩
    · rw [resolve_name name, Segments.all_reverse]
    · have after : Segments.all ⟨absolute, ups, names ++ [segment], named', root⟩ ++ rest
          = Segments.all ⟨absolute, ups, names, named, root⟩ ++ segment :: rest := by
        simp [Segments.all]
      rw [after]
      exact .refl _ _

/-- Resolving keeps segments in normal form and leads where the segments lead, by induction on them.
Dots at the root of an absolute path lead nowhere, which is what `Meets` allows for. -/
theorem foldl_resolve_keeps (s : Segments) {segments : List (List Char)}
    (slash : ∀ p ∈ segments, '/' ∉ p) :
    ∃ s' : Segments, s'.absolute = s.absolute ∧
      segments.foldl (resolve s.absolute) s.all.reverse = s'.all.reverse ∧
      Course.Meets s.absolute (course s'.all) (course (s.all ++ segments)) := by
  induction segments generalizing s with
  | nil => exact ⟨s, rfl, rfl, by rw [List.append_nil]; exact .refl _ _⟩
  | cons p ps ih =>
    obtain ⟨here, rest⟩ := List.forall_mem_cons.1 slash
    obtain ⟨s₁, absolute₁, step, meets⟩ := resolve_keeps s here
    obtain ⟨s₂, absolute₂, steps, ends⟩ := ih s₁ rest
    rw [absolute₁] at steps ends
    refine ⟨s₂, absolute₂.trans absolute₁, ?_, ends.trans (meets ps)⟩
    rw [List.foldl_cons, step, steps]

/-- What is kept of a text, and where its segments lead. -/
theorem exists_kept (cs : List Char) : ∃ s : Segments, s.absolute = isRooted cs ∧
    kept cs = s.all.reverse ∧ Course.Meets (isRooted cs) ⟨s.ups, s.names⟩ (course (pieces '/' cs)) := by
  obtain ⟨s, absolute, all, meets⟩ := foldl_resolve_keeps
    ⟨isRooted cs, 0, [], List.forall_mem_nil _, fun _ => rfl⟩
    fun p (hp : p ∈ pieces '/' cs) => not_mem_of_mem_pieces hp
  rw [course_all] at meets
  exact ⟨s, absolute, all, meets⟩

/-- Normalizing gives a path in normal form. -/
theorem normal_of_normalize {cs out : List Char} (h : normalize? cs = some out) : Normal out := by
  have text : cs ≠ [] := by
    rintro rfl
    cases h
  obtain ⟨s, absolute, all, -⟩ := exists_kept cs
  rw [normalize_of_ne_nil text, all, List.reverse_reverse, ← absolute] at h
  exact ⟨s, (Option.some.inj h).symm⟩

/-! ## What is normal is kept -/

theorem foldl_resolve_names (absolute : Bool) {names : List (List Char)}
    (named : ∀ name ∈ names, Named name) (kept : List (List Char)) :
    names.foldl (resolve absolute) kept = names.reverse ++ kept := by
  induction names generalizing kept with
  | nil => rfl
  | cons name names ih =>
    obtain ⟨here, rest⟩ := List.forall_mem_cons.1 named
    rw [List.foldl_cons, resolve_name here, ih rest, List.reverse_cons, List.append_assoc]
    rfl

theorem foldl_resolve_ups (ups n : Nat) :
    (List.replicate ups ['.', '.']).foldl (resolve false) (List.replicate n ['.', '.'])
      = List.replicate (ups + n) ['.', '.'] := by
  induction ups generalizing n with
  | zero => rw [Nat.zero_add]; rfl
  | succ ups ih =>
    rw [List.replicate_succ, List.foldl_cons, resolve_dots_ups, ih, Nat.succ_add, Nat.add_succ]

/-- Normal segments are all kept. -/
theorem foldl_resolve_all (s : Segments) : s.all.foldl (resolve s.absolute) [] = s.all.reverse := by
  have ups : (List.replicate s.ups ['.', '.']).foldl (resolve s.absolute) []
      = List.replicate s.ups ['.', '.'] := by
    cases h : s.absolute with
    | true => rw [s.root h]; rfl
    | false => exact foldl_resolve_ups s.ups 0
  rw [Segments.all, List.foldl_append, ups, foldl_resolve_names _ s.named, List.reverse_append,
    List.reverse_replicate]

theorem Segments.slash_not_mem (s : Segments) : ∀ p ∈ s.all, '/' ∉ p := by
  intro p hp
  rcases List.mem_append.1 hp with hp | hp
  · rw [List.eq_of_mem_replicate hp]
    decide
  · exact (s.named p hp).slash

theorem Segments.ne_nil (s : Segments) : ∀ p ∈ s.all, p ≠ [] := by
  intro p hp
  rcases List.mem_append.1 hp with hp | hp
  · rw [List.eq_of_mem_replicate hp]
    decide
  · exact (s.named p hp).ne_nil

/-- Cutting joined segments and resolving the pieces, after an empty one or not, gives them back. -/
theorem foldl_resolve_joined (s : Segments) :
    (pieces '/' (List.intercalate ['/'] s.all)).foldl (resolve s.absolute) [] = s.all.reverse := by
  by_cases none : s.all = []
  · rw [none]
    rfl
  · rw [pieces_intercalate none s.slash_not_mem, foldl_resolve_all]

/-- Segments that are joined begin with the first character of the first. -/
theorem exists_joined_cons (s : Segments) (h : s.all ≠ []) :
    ∃ c cs, List.intercalate ['/'] s.all = c :: cs ∧ c ≠ '/' := by
  obtain ⟨p, ps, hs⟩ := List.exists_cons_of_ne_nil h
  have mem : p ∈ s.all := hs ▸ List.mem_cons_self
  obtain ⟨c, p, rfl⟩ := List.exists_cons_of_ne_nil (s.ne_nil p mem)
  refine ⟨c, List.intercalate ['/'] (p :: ps), hs ▸ intercalate_append_cons ['/'] [c] p ps, ?_⟩
  rintro rfl
  exact s.slash_not_mem _ mem List.mem_cons_self

theorem spell_relative {s : Segments} (h : s.all ≠ []) :
    spell false s.all = List.intercalate ['/'] s.all := by
  obtain ⟨c, cs, joined, -⟩ := exists_joined_cons s h
  rw [spell, joined]
  rfl

theorem spell_ne_nil (s : Segments) : spell s.absolute s.all ≠ [] := by
  unfold spell
  split
  · simp
  · split <;> simp_all

/-- The spelling begins with the slash iff the path is absolute. -/
theorem isRooted_spell (s : Segments) : isRooted (spell s.absolute s.all) = s.absolute := by
  cases s.absolute with
  | true => rfl
  | false =>
    by_cases none : s.all = []
    · rw [none]
      rfl
    · obtain ⟨c, cs, joined, first⟩ := exists_joined_cons s none
      rw [spell_relative none, joined]
      simpa [isRooted] using first

/-- What was spelled is kept segment by segment when it is read, so normalizing it again changes
nothing. -/
theorem kept_spell (s : Segments) : kept (spell s.absolute s.all) = s.all.reverse := by
  have joined := foldl_resolve_joined s
  rw [kept, isRooted_spell]
  cases root : s.absolute with
  | true =>
    rw [root] at joined
    exact joined
  | false =>
    by_cases none : s.all = []
    · rw [none]
      rfl
    · rw [root] at joined
      rw [spell_relative none, joined]

/-- A path in normal form is its own normal form. -/
theorem normalize_of_normal {cs : List Char} (h : Normal cs) : normalize? cs = some cs := by
  obtain ⟨s, rfl⟩ := h
  rw [normalize_of_ne_nil (spell_ne_nil s), isRooted_spell, kept_spell, List.reverse_reverse]

end Conform.LexicalPath
