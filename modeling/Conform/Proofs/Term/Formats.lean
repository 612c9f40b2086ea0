import Conform.Proofs.Run
import Conform.Term.Yaml

/-!
# One document in two formats

What JSON has a form for, YAML has a form for as well, and the two stand for the same term: nulls become
the same symbol, numbers are told apart and rounded alike, and keys, which are strings on both sides, stay
in their order. YAML may put a tag around any value that is no key, at any depth; tags count for nothing.
-/

namespace Conform

namespace Yaml

mutual

/-- The form of a JSON value in YAML. -/
def ofJson : Json → Yaml
  | .null => .null
  | .boolean b => .boolean b
  | .integer i => .integer i
  | .float x => .float x
  | .string s => .string s
  | .array items => .sequence (ofJsonItems items)
  | .object members => .mapping (ofJsonMembers members)

def ofJsonItems : List Json → List Yaml
  | [] => []
  | j :: js => ofJson j :: ofJsonItems js

/-- The members of an object in YAML: their keys are strings. -/
def ofJsonMembers : List (String × Json) → List (Yaml × Yaml)
  | [] => []
  | (k, j) :: ms => (.string k, ofJson j) :: ofJsonMembers ms

end

theorem ofJsonItems_eq_map (items : List Json) : ofJsonItems items = items.map ofJson := by
  induction items with
  | nil => rfl
  | cons j js ih => rw [ofJsonItems, ih, List.map_cons]

theorem ofJsonMembers_eq_map (members : List (String × Json)) :
    ofJsonMembers members = members.map fun m => (.string m.1, ofJson m.2) := by
  induction members with
  | nil => rfl
  | cons m ms ih => rw [ofJsonMembers, ih, List.map_cons]

mutual

/-- The value without the tags that are put around it and around the values in it. Keys keep theirs. -/
def bare : Yaml → Yaml
  | .sequence items => .sequence (bareItems items)
  | .mapping pairs => .mapping (barePairs pairs)
  | .tagged _ value => bare value
  | v => v

def bareItems : List Yaml → List Yaml
  | [] => []
  | v :: vs => bare v :: bareItems vs

def barePairs : List (Yaml × Yaml) → List (Yaml × Yaml)
  | [] => []
  | (k, v) :: ps => (k, bare v) :: barePairs ps

end

end Yaml

namespace Term

/-! ## Tags count for nothing -/

mutual

/-- Tags on values do not matter: decoding a YAML value is decoding it without them. -/
theorem ofYaml_bare (v : Yaml) : ofYaml v.bare = ofYaml v := by
  cases v with
  | sequence items => rw [Yaml.bare, ofYaml, ofYaml, itemsOfYaml_bareItems]
  | mapping pairs => rw [Yaml.bare, ofYaml, ofYaml, pairsOfYaml_barePairs]
  | tagged tag value => rw [Yaml.bare, ofYaml, ofYaml_bare value]
  | null | boolean | integer | float | string => rfl

theorem itemsOfYaml_bareItems (vs : List Yaml) : itemsOfYaml (Yaml.bareItems vs) = itemsOfYaml vs := by
  cases vs with
  | nil => rfl
  | cons v vs => rw [Yaml.bareItems, itemsOfYaml, itemsOfYaml, ofYaml_bare v, itemsOfYaml_bareItems vs]

theorem pairsOfYaml_barePairs (ps : List (Yaml × Yaml)) :
    pairsOfYaml (Yaml.barePairs ps) = pairsOfYaml ps := by
  cases ps with
  | nil => rfl
  | cons p ps =>
    rw [Yaml.barePairs, pairsOfYaml, pairsOfYaml, ofYaml_bare p.2, pairsOfYaml_barePairs ps]

end

/-! ## The form of a JSON value -/

/-- A conversion that does not fail, and goes like one that cannot. -/
def Likewise {α : Type} (x : ExceptT KeyFault Creating α) (y : Creating α) : Prop :=
  ∀ s, x s = (.ok (y s).1, (y s).2)

namespace Likewise

variable {α β : Type} {x : ExceptT KeyFault Creating α} {y : Creating α}

theorem pure (a : α) : Likewise (Pure.pure a) (Pure.pure a) :=
  fun _ => rfl

theorem bind (h : Likewise x y) {f : α → ExceptT KeyFault Creating β} {g : α → Creating β}
    (next : ∀ a, Likewise (f a) (g a)) : Likewise (x >>= f) (y >>= g) := by
  intro s
  rw [Run.bind_of_ok (h s)]
  exact next _ _

end Likewise

mutual

/-- A JSON value written as YAML decodes alike, by induction with its two companions. No key of it
can be refused, as they are all strings. -/
theorem likewise_ofYaml_ofJson (j : Json) : Likewise (ofYaml (Yaml.ofJson j)) (ofJson j) := by
  cases j with
  | array items =>
    rw [Yaml.ofJson, ofYaml, ofJson]
    exact (likewise_itemsOfYaml items).bind fun _ => .pure _
  | object members =>
    rw [Yaml.ofJson, ofYaml, ofJson]
    exact (likewise_pairsOfYaml members).bind fun _ => .pure _
  | null => exact fun _ => rfl
  | boolean | integer | float | string => exact .pure _

theorem likewise_itemsOfYaml (js : List Json) :
    Likewise (itemsOfYaml (Yaml.ofJsonItems js)) (itemsOfJson js) := by
  cases js with
  | nil => exact .pure []
  | cons j js =>
    rw [Yaml.ofJsonItems, itemsOfYaml, itemsOfJson]
    exact (likewise_ofYaml_ofJson j).bind fun _ => (likewise_itemsOfYaml js).bind fun _ => .pure _

theorem likewise_pairsOfYaml (ms : List (String × Json)) :
    Likewise (pairsOfYaml (Yaml.ofJsonMembers ms)) (pairsOfJson ms) := by
  cases ms with
  | nil => exact .pure []
  | cons m ms =>
    rw [Yaml.ofJsonMembers, pairsOfYaml, pairsOfJson]
    exact (likewise_ofYaml_ofJson m.2).bind fun _ => (likewise_pairsOfYaml ms).bind fun _ => .pure _

end

/-- **YAML and JSON stand for the same terms.** The YAML form of a JSON value becomes the term that the
value becomes, with the same symbols created. Values that differ in the tags around them and around the
values in them become the same term, or fail alike. -/
theorem formats_agree :
    (∀ (j : Json) (s : Session),
      ofYaml (Yaml.ofJson j) s = (.ok (ofJson j s).1, (ofJson j s).2)) ∧
    ∀ v w : Yaml, v.bare = w.bare → ofYaml v = ofYaml w := by
  refine ⟨fun j s => likewise_ofYaml_ofJson j s, fun v w alike => ?_⟩
  rw [← ofYaml_bare v, alike, ofYaml_bare w]

/-- The greatest integer of 64 bits without a sign, a null, and an object without members. -/
def release : Json :=
  .object [("build", .integer 18446744073709551615), ("notes", .array [.null, .object []])]

/-- The same in YAML, with tags around all of it, around values, around an item and around a tag. -/
def taggedRelease : Yaml :=
  .tagged "release" (.mapping [(.string "build", .tagged "count" (.integer 18446744073709551615)),
    (.string "notes", .tagged "list" (.sequence [.tagged "a" (.tagged "b" .null), .mapping []]))])

theorem formats_agree_release :
    taggedRelease.bare = (Yaml.ofJson release).bare ∧
      ofYaml taggedRelease .start = (.ok (.map [(.text "build", .float ⟨0x43F0000000000000⟩),
        (.text "notes", .list [.atom ⟨"null"⟩, .map []])]), ⟨⟨[⟨"null"⟩]⟩, 0⟩) := by
  have rounded : Binary64.ofInt 18446744073709551615 = ⟨0x43F0000000000000⟩ := by decide +kernel
  have alike : taggedRelease.bare = (Yaml.ofJson release).bare := rfl
  refine ⟨alike, ?_⟩
  rw [formats_agree.2 _ _ alike, formats_agree.1 release .start, ← rounded]
  rfl

end Term

end Conform
