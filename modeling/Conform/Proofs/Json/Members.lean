import Conform.Json.Reading

/-!
# The members of an object

In a document a key may come twice. In the value it does not: setting a key changes the member of
that key or adds one behind the others, so the keys of the members that have been gathered stay
distinct, and each has the value that it was set to last.
-/

namespace Conform.Json

/-- Setting a member keeps the others where they are: a name that is there stays in its place, a new
one goes last. -/
theorem keys_setMember (key : String) (value : Json) (members : List (String × Json)) :
    (setMember key value members).map (·.1) =
      if key ∈ members.map (·.1) then members.map (·.1) else members.map (·.1) ++ [key] := by
  induction members with
  | nil => rfl
  | cons m ms ih =>
    obtain ⟨k, v⟩ := m
    by_cases hk : k = key
    · simp [setMember, hk]
    · have other : key ≠ k := fun h => hk h.symm
      simp only [setMember, hk, if_false, List.map_cons, ih, List.mem_cons, other, false_or]
      split <;> rfl

theorem nodup_setMember {members : List (String × Json)} (h : (members.map (·.1)).Nodup)
    (key : String) (value : Json) : ((setMember key value members).map (·.1)).Nodup := by
  rw [keys_setMember]
  split
  · exact h
  · rename_i absent
    rw [List.nodup_append]
    refine ⟨h, by simp, fun a ha b hb same => absent ?_⟩
    obtain rfl : b = key := by simpa using hb
    exact same ▸ ha

/-- An object that was read names no member twice: `gather` sets one member after the other. -/
theorem nodup_gather (members : List (String × Json)) : ((gather members).map (·.1)).Nodup := by
  have gathering (done : List (String × Json)) (h : (done.map (·.1)).Nodup) :
      ((members.foldl (fun done m => setMember m.1 m.2 done) done).map (·.1)).Nodup := by
    induction members generalizing done with
    | nil => exact h
    | cons m ms ih => exact ih _ (nodup_setMember h m.1 m.2)
  exact gathering [] List.nodup_nil

theorem setMember_of_new {key : String} {members : List (String × Json)}
    (h : key ∉ members.map (·.1)) (value : Json) :
    setMember key value members = members ++ [(key, value)] := by
  induction members with
  | nil => rfl
  | cons m ms ih =>
    rw [List.map_cons, List.mem_cons, not_or] at h
    rw [setMember, if_neg fun same => h.1 same.symm, ih h.2]
    rfl

/-- Members whose keys are distinct stay as they are. -/
theorem gather_of_nodup {members : List (String × Json)} (h : (members.map (·.1)).Nodup) :
    gather members = members := by
  have gathering (done members : List (String × Json)) (h : ((done ++ members).map (·.1)).Nodup) :
      members.foldl (fun done m => setMember m.1 m.2 done) done = done ++ members := by
    induction members generalizing done with
    | nil => exact (List.append_nil done).symm
    | cons m ms ih =>
      have new : m.1 ∉ done.map (·.1) := by
        intro old
        rw [List.map_append, List.nodup_append] at h
        exact h.2.2 m.1 old m.1 List.mem_cons_self rfl
      have further : ((done ++ [m] ++ ms).map (·.1)).Nodup := by
        rwa [List.append_assoc]
      rw [List.foldl_cons, setMember_of_new new, ih _ further, List.append_assoc]
      rfl
  exact gathering [] members h

/-! ## Values by their keys -/

theorem get?_object_cons (m : String × Json) (ms : List (String × Json)) (name : String) :
    (object (m :: ms)).get? name = if m.1 = name then some m.2 else (object ms).get? name := by
  by_cases named : m.1 = name <;> simp [get?, named]

theorem get?_object_append (as bs : List (String × Json)) (name : String) :
    (object (as ++ bs)).get? name = ((object as).get? name).or ((object bs).get? name) := by
  simp only [get?, List.find?_append, Option.map_or]

/-- A key that has been set has the value that it was set to; the others keep theirs. -/
theorem get?_setMember (key name : String) (value : Json) (members : List (String × Json)) :
    (object (setMember key value members)).get? name =
      if key = name then some value else (object members).get? name := by
  induction members with
  | nil => rw [setMember, get?_object_cons]
  | cons m ms ih =>
    obtain ⟨k, v⟩ := m
    rw [setMember, get?_object_cons]
    split
    · rename_i here
      subst here
      rw [get?_object_cons]
      split <;> rfl
    · rename_i other
      rw [get?_object_cons, ih]
      split
      · rename_i named
        rw [if_neg fun same => other (Eq.trans named same.symm)]
      · rfl

/-- Of the values that a key has been set to, it has the last. -/
theorem get?_gather (members : List (String × Json)) (name : String) :
    (object (gather members)).get? name = (object members.reverse).get? name := by
  have gathering (done : List (String × Json)) :
      (object (members.foldl (fun done m => setMember m.1 m.2 done) done)).get? name =
        ((object members.reverse).get? name).or ((object done).get? name) := by
    induction members generalizing done with
    | nil => rfl
    | cons m ms ih =>
      rw [List.foldl_cons, ih, get?_setMember, List.reverse_cons, get?_object_append, get?_object_cons,
        Option.or_assoc]
      split <;> rfl
  rw [gather, gathering]
  exact Option.or_none

/-! ## Objects that are read -/

theorem Literal.value?_ne_object (l : Literal) (members : List (String × Json)) :
    l.value? ≠ some (.object members) := by
  have float (significand : Nat) (exponent : Int) :
      float? l.negative significand exponent ≠ some (.object members) := by
    unfold float?
    cases scale? (.ofInt significand) exponent <;> simp
  have whole (significand : Nat) : wholeValue l.negative significand ≠ .object members := by
    unfold wholeValue
    split
    · simp
    · split <;> simp
  unfold value?
  dsimp only
  split
  · simp [whole]
  · exact float _ _

/-- The keys of an object that a tree has for its value are distinct. -/
theorem Raw.nodup_of_value? {depth : Nat} {r : Raw} {members : List (String × Json)}
    (h : r.value? depth = some (.object members)) : (members.map (·.1)).Nodup := by
  cases r with
  | object ms =>
    cases depth with
    | zero => simp [value?] at h
    | succ depth =>
      rw [value?] at h
      obtain ⟨given, -, same⟩ := Option.map_eq_some_iff.1 h
      cases same
      exact nodup_gather given
  | array items => cases depth <;> simp [value?] at h
  | number l => rw [value?] at h; exact absurd h (l.value?_ne_object members)
  | null | boolean | string => simp [value?] at h

/-- No text reads as an object with a name twice, however often it writes the name. -/
theorem nodup_of_read? {text : String} {members : List (String × Json)}
    (h : read? text = some (.object members)) : (members.map (·.1)).Nodup := by
  obtain ⟨r, -, value⟩ := Option.bind_eq_some_iff.1 h
  exact Raw.nodup_of_value? value

end Conform.Json
