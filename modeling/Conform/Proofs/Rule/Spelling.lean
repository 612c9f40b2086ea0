import Conform.ParseError
import Conform.Proofs.Attempt
import Conform.Proofs.Tag.Spelling
import Mathlib.Data.List.Basic

/-!
# Spellings of rules

The rules that names are for: fields that are dropped, tags that can be spelled, and lists of such rules,
nested as deep as one likes. The spelling of such a rule is read as the rule, with blanks around it or
around the names inside its wrappers or not, and nothing else is ever read.

Reading takes a wrapper off before it tries a tag. No tag is spelled like a wrapper, so neither a member
with parentheses nor one that begins like a wrapper is mistaken for a list.

`Spells` is the relation between a rule and its texts, `ofName_of_spells` one direction.
-/

namespace Conform

open Conform.Text

variable {cs : List Char}

/-! ## Wrappers -/

namespace Discipline

variable {d e : Discipline} {inner : List Char}

theorem unwrap_eq_some_iff : d.unwrap? cs = some inner ↔ d.opening.toList ++ inner ++ [')'] = cs := by
  simp [unwrap?, Option.bind_eq_some_iff, List.isPrefixOf?_eq_some_iff_append_eq, dropEnd_eq_some_iff]

/-- Wrappers begin with different characters. -/
theorem eq_of_unwrap {other : List Char} (h : d.unwrap? cs = some inner)
    (hother : e.unwrap? cs = some other) : d = e ∧ inner = other := by
  rw [unwrap_eq_some_iff] at h hother
  subst h
  cases d <;> cases e <;> simp_all [opening]

/-- No text opens with two of the disciplines, so `wrapped?` finds the one that unwraps it. -/
theorem wrapped_eq_some_iff : wrapped? cs = some (d, inner) ↔ d.unwrap? cs = some inner := by
  have found {e : Discipline} {other : List Char} (h : wrapped? cs = some (e, other)) :
      e.unwrap? cs = some other := by
    obtain ⟨f, -, hf⟩ := List.exists_of_findSome?_eq_some h
    obtain ⟨text, unwrapped, same⟩ := Option.map_eq_some_iff.1 hf
    cases same
    exact unwrapped
  refine ⟨found, fun h => ?_⟩
  have listed : d ∈ [ordered, sorted, unique] := by cases d <;> simp
  cases hw : wrapped? cs with
  | none =>
    have missed := List.findSome?_eq_none_iff.1 hw d listed
    simp [h] at missed
  | some w =>
    obtain ⟨rfl, rfl⟩ := eq_of_unwrap h (found hw)
    rfl

/-- A wrapped name is shorter than the whole. -/
theorem length_of_wrapped (h : wrapped? cs = some (d, inner)) : inner.length < cs.length := by
  rw [wrapped_eq_some_iff, unwrap_eq_some_iff] at h
  have total := congrArg List.length h
  simp at total
  omega

end Discipline

namespace Rule

variable {r : Rule} {d : Discipline} {tag : Tag} {inner : List Char}

/-- The rules that can be spelled. -/
inductive Nameable : Rule → Prop
  | ignore : Nameable .ignore
  | type {tag : Tag} (back : Tag.read? tag.text.toList = some tag) : Nameable (.type tag)
  | list (d : Discipline) {inner : Rule} (h : Nameable inner) : Nameable (.list d inner)

/-- The spelling of a rule. Alternatives, levels and callbacks have none. -/
def spelling? : Rule → Option String
  | .ignore => some "ignore"
  | .type tag => some tag.text
  | .list d inner => (spelling? inner).map fun s => d.opening ++ s ++ ")"
  | _ => none

/-- The texts that spell a rule: its spelling, with blanks around it and around the names inside its
wrappers. -/
inductive Spells : Rule → List Char → Prop
  | ignore : Spells .ignore "ignore".toList
  | type {tag : Tag} (back : Tag.read? tag.text.toList = some tag) : Spells (.type tag) tag.text.toList
  | list (d : Discipline) {inner : Rule} {cs : List Char} (h : Spells inner cs) :
    Spells (.list d inner) (d.opening.toList ++ cs ++ [')'])
  | padded {r : Rule} {cs before after : List Char} (hbefore : ∀ c ∈ before, isBlank c = true)
    (hafter : ∀ c ∈ after, isBlank c = true) (h : Spells r cs) : Spells r (before ++ cs ++ after)

/-- A rule that can be named has a name. -/
theorem Nameable.exists_spelling (h : r.Nameable) :
    ∃ s, r.spelling? = some s ∧ r.Spells s.toList := by
  induction h with
  | ignore => exact ⟨_, rfl, .ignore⟩
  | type back => exact ⟨_, rfl, .type back⟩
  | list d _ ih =>
    obtain ⟨s, hs, spells⟩ := ih
    refine ⟨d.opening ++ s ++ ")", by simp [spelling?, hs], ?_⟩
    simpa using Spells.list d spells

/-! ## Reading

The bound of reading is the length of the name, and taking a wrapper off makes the name shorter. So the
bound is never met, and a name is read by the equations below. -/

/-- The fuel does not matter once it exceeds the length of the text: each level of a list's name is
shorter than the one around it. -/
theorem ofNameWithin_congr {m n : Nat} (hm : cs.length < m) (hn : cs.length < n) :
    ofNameWithin m cs = ofNameWithin n cs := by
  induction m generalizing n cs with
  | zero => omega
  | succ m ih =>
    obtain ⟨n, rfl⟩ : ∃ k, n = k + 1 := ⟨n - 1, by omega⟩
    unfold ofNameWithin
    dsimp only
    split
    · rfl
    · split
      · rename_i d inner wrapped
        have shorter := Discipline.length_of_wrapped wrapped
        have cut := length_trim_le cs
        rw [ih (by omega) (by omega : inner.length < n)]
      · rfl

/-- One step of reading. -/
theorem ofName_eq (cs : List Char) : ofName (String.ofList cs) =
    if trim cs = "ignore".toList then .ok .ignore
    else match Discipline.wrapped? (trim cs) with
      | some (d, inner) => (ofName (String.ofList inner)).map (.list d)
      | none =>
        match Tag.read? (trim cs) with
        | some tag => .ok (.type tag)
        | none => .error (String.ofList (trim cs)) := by
  rw [ofName, String.toList_ofList, ofNameWithin]
  by_cases ignored : trim cs = "ignore".toList
  · rw [if_pos ignored, if_pos ignored]
  · rw [if_neg ignored, if_neg ignored]
    cases wrapped : Discipline.wrapped? (trim cs) with
    | none => rfl
    | some w =>
      obtain ⟨d, inner⟩ := w
      have shorter := Discipline.length_of_wrapped wrapped
      have cut := length_trim_le cs
      show (ofNameWithin cs.length inner).map (list d) = (ofName (String.ofList inner)).map (list d)
      rw [ofName, String.toList_ofList, ofNameWithin_congr (by omega) (Nat.lt_succ_self _)]

/-- Blanks around a name do not matter. -/
theorem ofName_padded {before after : List Char} (hbefore : ∀ c ∈ before, isBlank c = true)
    (hafter : ∀ c ∈ after, isBlank c = true) (cs : List Char) :
    ofName (String.ofList (before ++ cs ++ after)) = ofName (String.ofList cs) := by
  rw [ofName_eq, ofName_eq, trim_between_blanks hbefore hafter]

/-- A wrapped name names a list of what the inside names, blanks around it aside. -/
theorem ofName_list (h : d.unwrap? (trim cs) = some inner) :
    ofName (String.ofList cs) = (ofName (String.ofList inner)).map (.list d) := by
  have differ : trim cs ≠ "ignore".toList := by
    intro same
    rw [same] at h
    cases d <;> contradiction
  rw [ofName_eq, if_neg differ, Discipline.wrapped_eq_some_iff.2 h]

/-- What a wrapper begins with is a name that no tag has. -/
theorem exists_wrapper_name (d : Discipline) : ∃ name, d.opening.toList = name ++ ['('] ∧
    '(' ∉ name ∧ trim name = name ∧
      ∀ arguments, Tag.ofApplied? (String.ofList name) arguments = none := by
  have untagged {name : String} (h : name ∉ ["enum", "int_set", "fun", "timestamp", "int"])
      (arguments : List (List Char)) : Tag.ofApplied? name arguments = none := by
    obtain ⟨h₁, h₂, h₃, h₄, h₅⟩ : name ≠ "enum" ∧ name ≠ "int_set" ∧ name ≠ "fun" ∧
        name ≠ "timestamp" ∧ name ≠ "int" := by simpa using h
    simp only [Tag.ofApplied?, h₁, h₂, h₃, h₄, h₅, if_false]
    split <;> rfl
  cases d with
  | ordered => exact ⟨"list".toList, rfl, by decide, by decide, untagged (by decide)⟩
  | sorted => exact ⟨"slist".toList, rfl, by decide, by decide, untagged (by decide)⟩
  | unique => exact ⟨"ulist".toList, rfl, by decide, by decide, untagged (by decide)⟩

/-- No tag is spelled like a wrapped name. -/
theorem read_of_unwrap (h : d.unwrap? (trim cs) = some inner) : Tag.read? cs = none := by
  obtain ⟨name, opening, uncut, trimmed, untagged⟩ := exists_wrapper_name d
  rw [Discipline.unwrap_eq_some_iff, opening] at h
  have whole : trim cs = name ++ '(' :: (inner ++ [')']) := by simp [← h]
  rw [Tag.read?, whole, cut_append uncut]
  show (dropEnd? [')'] (inner ++ [')'])).bind _ = none
  rw [dropEnd_append, Option.bind_some, trimmed, untagged]

/-- A name that reads as a tag names the tag's rule: no tag is written like a list of another rule. -/
theorem ofName_type (h : Tag.read? cs = some tag) : ofName (String.ofList cs) = .ok (.type tag) := by
  have again : Tag.read? (trim cs) = some tag := by
    rwa [Tag.read?, trim_of_trimmed (trimmed_trim cs)]
  have differ : trim cs ≠ "ignore".toList := by
    intro same
    rw [same] at again
    contradiction
  have bare : Discipline.wrapped? (trim cs) = none := by
    rw [Option.eq_none_iff_forall_ne_some]
    rintro ⟨d, inner⟩ wrapped
    rw [read_of_unwrap (Discipline.wrapped_eq_some_iff.1 wrapped)] at h
    contradiction
  rw [ofName_eq, if_neg differ, bare, again]

/-! ## Spellings -/

/-- Every spelling of a rule reads as the rule, by induction on the spelling. -/
theorem ofName_of_spells (h : r.Spells cs) : ofName (String.ofList cs) = .ok r := by
  induction h with
  | ignore => rfl
  | type back => exact ofName_type back
  | @list d inner cs _ ih =>
    have opens : ∃ c rest, d.opening.toList = c :: rest ∧ isBlank c = false := by
      cases d <;> exact ⟨_, _, rfl, by decide⟩
    obtain ⟨c, rest, opening, first⟩ := opens
    have trimmed : trim (d.opening.toList ++ cs ++ [')']) = d.opening.toList ++ cs ++ [')'] := by
      rw [opening]
      exact trim_of_trimmed (trimmed_enclosed first (by decide) (rest ++ cs))
    have unwrapped : d.unwrap? (trim (d.opening.toList ++ cs ++ [')'])) = some cs := by
      rw [trimmed, Discipline.unwrap_eq_some_iff]
    rw [ofName_list unwrapped, ih]
    rfl
  | padded hbefore hafter _ ih => rw [ofName_padded hbefore hafter, ih]

/-- Reading gives a rule that can be spelled, by induction on the bound of reading. -/
theorem nameable_of_ofNameWithin {n : Nat} (h : ofNameWithin n cs = .ok r) : r.Nameable := by
  induction n generalizing cs r with
  | zero => cases h
  | succ n ih =>
    unfold ofNameWithin at h
    dsimp only at h
    split at h
    · cases h
      exact .ignore
    · split at h
      · rename_i d inner wrapped
        obtain ⟨r, hr, rfl⟩ := Attempt.map_eq_ok.1 h
        exact .list d (ih hr)
      · split at h
        · rename_i tag read
          cases h
          exact .type (Tag.read_text (Tag.spellable_of_read read))
        · cases h

/-- Which rule `named` gives is the doing of `ofName`; the session is touched for the members of an
enumeration only. -/
theorem named_eq_ok_iff {name : String} {session : Session} :
    (named name session).1 = .ok r ↔ ofName name = .ok r := by
  unfold named
  cases ofName name <;> simp

/-- **Names of rules read back.** Every text that spells a rule, with blanks around it and around the
names inside its wrappers or not, is read as the rule. Only rules that can be spelled are ever read, and
each of those has a spelling that is read as the rule. -/
theorem named_reads_back (r : Rule) (session : Session) :
    (∀ name : String, r.Spells name.toList → (named name session).1 = .ok r) ∧
      (∀ name, (named name session).1 = .ok r → r.Nameable) ∧
      (r.Nameable → ∃ name, r.spelling? = some name ∧ r.Spells name.toList ∧
        (named name session).1 = .ok r) := by
  have spelled (name : String) (h : r.Spells name.toList) : (named name session).1 = .ok r := by
    rw [named_eq_ok_iff, ← String.ofList_toList (s := name)]
    exact ofName_of_spells h
  refine ⟨spelled, fun name h => nameable_of_ofNameWithin (named_eq_ok_iff.1 h), fun h => ?_⟩
  obtain ⟨name, spelling, spells⟩ := h.exists_spelling
  exact ⟨name, spelling, spells, spelled name spells⟩

/-- Lists of lists of an enumeration one member of which looks like a list and another closes a
parenthesis, with blanks in all places where they may be. -/
theorem named_reads_back_handlers :
    let tag : Tag := .enumeration [⟨"list(a)"⟩, ⟨"x y"⟩, ⟨")"⟩]
    let rule : Rule := .list .unique (.list .ordered (.type tag))
    let loose := " ulist(\tlist( enum(list(a),x y,)) )) "
    let session := Session.start
    rule.Spells loose.toList ∧ (named loose session).1 = .ok rule ∧ rule.Nameable ∧
      ∃ name, rule.spelling? = some name ∧ rule.Spells name.toList ∧
        (named name session).1 = .ok rule := by
  intro tag rule loose session
  obtain ⟨spelled, nameable, exact⟩ := named_reads_back rule session
  have back : Tag.read? tag.text.toList = some tag := by decide +kernel
  have blank : ∀ c ∈ [' '], isBlank c = true := List.forall_mem_singleton.2 rfl
  have tab : ∀ c ∈ ['\t'], isBlank c = true := List.forall_mem_singleton.2 rfl
  have inside : Spells (.list .ordered (.type tag)) _ :=
    .list .ordered (.padded blank blank (.type back))
  have whole : rule.Spells _ :=
    .padded blank blank (.list .unique (.padded tab (List.forall_mem_nil _) inside))
  have text : loose.toList = [' '] ++ (Discipline.unique.opening.toList ++ (['\t'] ++
      (Discipline.ordered.opening.toList ++ ([' '] ++ tag.text.toList ++ [' ']) ++ [')']) ++ [])
      ++ [')']) ++ [' '] := by
    decide +kernel
  rw [← text] at whole
  have read := spelled loose whole
  exact ⟨whole, read, nameable loose read, exact (nameable loose read)⟩

end Rule

end Conform
