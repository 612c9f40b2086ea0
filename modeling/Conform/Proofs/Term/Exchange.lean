import Conform.Json.Literal
import Conform.Proofs.Binary64.Nearest
import Conform.Proofs.Term.Written

/-!
# Going through JSON and back

Terms that are made of what JSON has a form for come back from it as they were, bit by bit. The other
way round, a value comes back from a term but for two things: a null is the text "null", and an integer
that 64 bits with a sign do not hold is the nearest float. The keys of an object and the items of an
array stay in their order.
-/

namespace Conform

/-! ## From terms to terms -/

namespace Term

/-- A term that JSON has a form for, as far as it is not within the term. -/
def Native : Term → Prop
  | .boolean _ | .integer _ | .string _ | .list _ => True
  | .float x => x.isFinite = true
  | .map pairs => (∀ p ∈ pairs, p.1 = .text p.1.name) ∧ DistinctNames pairs
  | _ => False

theorem Native.faithful {t : Term} (h : t.Native) : t.Faithful := by
  cases t with
  | float => exact h
  | map => exact h.2
  | _ => exact trivial

/-- A native term is what it is after it has been written and read. -/
theorem written_of_native {t : Term} (h : t.Every Native) : t.written = t := by
  induction t using Term.induct with
  | plain t tuple map list =>
    cases t with
    | boolean | integer | float | string => rfl
    | list => exact absurd rfl list
    | map => exact absurd rfl map
    | _ => exact h.here.elim
  | tuple parts => exact h.here.elim
  | list items ih =>
    have each : items.map written = items.map id :=
      List.map_congr_left fun t ht => ih t ht (h.item ht)
    rw [written, writtenItems_eq_map, each, List.map_id]
  | map pairs ih =>
    have each : (pairs.map fun p => (Key.text p.1.name, p.2.written)) = pairs.map id := by
      apply List.map_congr_left
      intro p hp
      rw [← h.here.1 p hp, ih p hp (h.value hp)]
      rfl
    rw [written, writtenPairs_eq_map, each, List.map_id]

/-- It reads back as itself, and no symbol is created. -/
theorem ofJson_toJson_of_native {t : Term} (h : t.Every Native) (s : Session) :
    ofJson t.toJson s = (t, s) := by
  have faithful : t.Every Faithful := fun t' within => (h t' within).faithful
  rw [ofJson_toJson faithful, written_of_native h]

end Term

/-! ## From values to values -/

namespace Json

/-- A value as documents and programs may hold it: its integers have 64 bits, with or without a sign,
its floats are finite, and the keys of an object are distinct. -/
inductive WellFormed : Json → Prop where
  | null : WellFormed .null
  | boolean (b : Bool) : WellFormed (.boolean b)
  | integer {i : Int} : leastInt64 ≤ i → i ≤ Literal.greatestSignificand → WellFormed (.integer i)
  | float {x : Binary64} : x.isFinite = true → WellFormed (.float x)
  | string (s : String) : WellFormed (.string s)
  | array {items : List Json} : (∀ j ∈ items, WellFormed j) → WellFormed (.array items)
  | object {members : List (String × Json)} : (members.map (·.1)).Nodup →
    (∀ m ∈ members, WellFormed m.2) → WellFormed (.object members)

mutual

/-- A value after it has become a term and been written again. -/
def returned : Json → Json
  | .null => .string "null"
  | .boolean b => .boolean b
  | .integer i => if leastInt64 ≤ i ∧ i ≤ greatestInt64 then .integer i else .float (.ofInt i)
  | .float x => .float x
  | .string s => .string s
  | .array items => .array (returnedItems items)
  | .object members => .object (returnedMembers members)

/-- The items of an array, each as it returns. -/
def returnedItems : List Json → List Json
  | [] => []
  | j :: js => j.returned :: returnedItems js

def returnedMembers : List (String × Json) → List (String × Json)
  | [] => []
  | (k, j) :: ms => (k, j.returned) :: returnedMembers ms

end

theorem keys_returnedMembers (members : List (String × Json)) :
    (returnedMembers members).map (·.1) = members.map (·.1) := by
  induction members with
  | nil => rfl
  | cons m ms ih => rw [returnedMembers, List.map_cons, List.map_cons, ih]

/-- An integer of 64 bits that needs all of them for its size is rounded to the nearest float. -/
theorem nearest_of_wellFormed {i : Int} (least : leastInt64 ≤ i)
    (most : i ≤ Literal.greatestSignificand) : (Binary64.ofInt i).Nearest i := by
  apply Binary64.nearest_ofInt_of_lt
  unfold leastInt64 at least
  unfold Literal.greatestSignificand at most
  change i.natAbs < 18446744073709551616
  omega

/-- An integer that was read is written as `returned` says: those of 64 bits as they are, larger
ones as floats. -/
theorem toJson_ofInteger {i : Int} (least : leastInt64 ≤ i)
    (most : i ≤ Literal.greatestSignificand) : (Term.ofInteger i).toJson = (Json.integer i).returned := by
  rw [returned]
  by_cases fits : leastInt64 ≤ i ∧ i ≤ greatestInt64
  · have value : (Int64.ofInt i).toInt = i :=
      toInt64?_eq_some_iff.1 (if_pos fits)
    rw [if_pos fits, Term.ofInteger_of_toInt? value, Term.toJson, value]
  · have none : toInt64? i = none := if_neg fits
    rw [if_neg fits, Term.ofInteger, none, Term.toJson, if_pos (nearest_of_wellFormed least most).finite]

theorem itemsToJson_itemsOfJson {items : List Json}
    (h : ∀ j ∈ items, ∀ s, (Term.ofJson j s).1.toJson = j.returned) (s : Session) :
    Term.itemsToJson (Term.itemsOfJson items s).1 = returnedItems items := by
  induction items generalizing s with
  | nil => rfl
  | cons j js ih =>
    obtain ⟨first, others⟩ := List.forall_mem_cons.1 h
    rw [Term.itemsOfJson, returnedItems, ← first s, ← ih others (Term.ofJson j s).2]
    rfl

theorem pairsToJson_pairsOfJson {members : List (String × Json)}
    (h : ∀ m ∈ members, ∀ s, (Term.ofJson m.2 s).1.toJson = m.2.returned) (s : Session) :
    Term.pairsToJson (Term.pairsOfJson members s).1 = returnedMembers members := by
  induction members generalizing s with
  | nil => rfl
  | cons m ms ih =>
    obtain ⟨first, others⟩ := List.forall_mem_cons.1 h
    rw [Term.pairsOfJson, returnedMembers, ← first s, ← ih others (Term.ofJson m.2 s).2]
    rfl

/-- Every well-formed JSON value goes there and back to what `returned` says, by induction on it. -/
theorem WellFormed.toJson_ofJson {j : Json} (h : j.WellFormed) (s : Session) :
    (Term.ofJson j s).1.toJson = j.returned := by
  induction h generalizing s with
  | null => rfl
  | boolean => rfl
  | integer least most => exact toJson_ofInteger least most
  | float finite => exact if_pos finite
  | string => rfl
  | array _ ih =>
    rw [returned, ← itemsToJson_itemsOfJson ih s]
    rfl
  | @object members distinct _ ih =>
    rw [← keys_returnedMembers] at distinct
    rw [returned, ← gather_of_nodup distinct, ← pairsToJson_pairsOfJson ih s]
    rfl

/-- **JSON and terms there and back.** A native term comes back as it was, with nothing created. A
value comes back with the text "null" for every null and with a float for every integer that 64 bits
with a sign do not hold, and no float is nearer to that integer. -/
theorem there_and_back :
    (∀ (t : Term) (s : Session), t.Every Term.Native → Term.ofJson t.toJson s = (t, s)) ∧
      (∀ (j : Json) (s : Session), j.WellFormed → (Term.ofJson j s).1.toJson = j.returned) ∧
      ∀ i : Int, greatestInt64 < i → i ≤ Literal.greatestSignificand → (Binary64.ofInt i).Nearest i := by
  refine ⟨fun t s native => Term.ofJson_toJson_of_native native s, fun j s h => h.toJson_ofJson s, ?_⟩
  intro i large most
  have least : leastInt64 ≤ i := by
    unfold greatestInt64 at large
    unfold leastInt64
    omega
  exact nearest_of_wellFormed least most

/-- Minus zero, a float without a fraction, and an object in an array in an object. -/
def settings : Term :=
  .map [(.text "offset", .float (.zero true)), (.text "ratio", .float (.ofInt 1)),
    (.text "limits", .list [.integer (-1), .map [(.text "offset", .boolean false)]])]

/-- Nulls at two depths, the integer half way between two floats above the greatest of 64 bits with a
sign, and keys that are not in order. -/
def report : Json :=
  .object [("z", .null), ("a", .array [.integer 9223372036854776832, .integer 1, .float (.zero true)]),
    ("m", .object [("z", .null)])]

theorem every_native_settings : settings.Every Term.Native := by
  have zero : (Binary64.zero true).isFinite = true := by decide
  have one : (Binary64.ofInt 1).isFinite = true := by decide
  simp [settings, Term.Native, DistinctNames, Key.name, zero, one]

theorem wellFormed_report : report.WellFormed := by
  have rounded : WellFormed (.integer 9223372036854776832) := .integer (by decide) (by decide)
  have one : WellFormed (.integer 1) := .integer (by decide) (by decide)
  have zero : WellFormed (.float (.zero true)) := .float (by decide)
  have inner : WellFormed (.object [("z", .null)]) :=
    .object (by decide) (by simpa using WellFormed.null)
  exact .object (by decide) (by simp [WellFormed.null, WellFormed.array, rounded, one, zero, inner])

theorem there_and_back_report :
    (settings.Every Term.Native ∧ Term.ofJson settings.toJson .start = (settings, .start)) ∧
      (report.WellFormed ∧ (Term.ofJson report .start).1.toJson =
        .object [("z", .string "null"),
          ("a", .array [.float ⟨0x43E0000000000000⟩, .integer 1, .float (.zero true)]),
          ("m", .object [("z", .string "null")])]) ∧
      greatestInt64 < 9223372036854776832 ∧
        (9223372036854776832 : Int) ≤ Literal.greatestSignificand ∧
        (Binary64.ofInt 9223372036854776832).Nearest 9223372036854776832 := by
  have returns : report.returned =
      .object [("z", .string "null"),
        ("a", .array [.float ⟨0x43E0000000000000⟩, .integer 1, .float (.zero true)]),
        ("m", .object [("z", .string "null")])] := by
    have rounded : Binary64.ofInt 9223372036854776832 = ⟨0x43E0000000000000⟩ := by decide +kernel
    rw [← rounded]
    rfl
  refine ⟨⟨every_native_settings, there_and_back.1 settings .start every_native_settings⟩,
    ⟨wellFormed_report, ?_⟩, by decide, by decide, there_and_back.2.2 _ (by decide) (by decide)⟩
  rw [there_and_back.2.1 report .start wellFormed_report]
  exact returns

end Json

end Conform
