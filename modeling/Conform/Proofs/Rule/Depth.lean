import Conform.Rule

/-!
# Rules at any depth

Rules are made of rules: lists of an inner one, alternatives, the fields of a nested schema.
`Within` is the relation between a rule and those it is made of, itself included, and `Every` says
that a property holds of all of them. A claim about a schema "at any depth" is an `Every` of the
rule `.nested s`.
-/

namespace Conform.Rule

/-- Induction over rules, with one case for each kind. -/
theorem induct {P : Rule → Prop} (type : ∀ tag, P (.type tag))
    (list : ∀ d inner, P inner → P (.list d inner))
    (oneOf : ∀ rules, (∀ r ∈ rules, P r) → P (.oneOf rules))
    (nested : ∀ s : Schema, (∀ f ∈ s.fields, P f.2) → P (.nested s))
    (callback : ∀ c, P (.callback c)) (ignore : P .ignore) (r : Rule) : P r :=
  Rule.rec (motive_1 := P) (motive_2 := fun s => ∀ f ∈ s.fields, P f.2)
    (motive_3 := fun rules => ∀ r ∈ rules, P r) (motive_4 := fun fields => ∀ f ∈ fields, P f.2)
    (motive_5 := fun f => P f.2)
    type list oneOf nested callback ignore (fun _ _ _ h => h)
    (List.forall_mem_nil _) (fun _ _ h h' => List.forall_mem_cons.2 ⟨h, h'⟩)
    (List.forall_mem_nil _) (fun _ _ h h' => List.forall_mem_cons.2 ⟨h, h'⟩) (fun _ _ h => h) r

/-- The first rule is the second one or occurs in it. -/
inductive Within : Rule → Rule → Prop where
  | refl (r : Rule) : Within r r
  | list {r inner : Rule} {d : Discipline} : Within r inner → Within r (.list d inner)
  | oneOf {r alternative : Rule} {rules : List Rule} :
    alternative ∈ rules → Within r alternative → Within r (.oneOf rules)
  | nested {r : Rule} {s : Schema} {field : Key × Rule} :
    field ∈ s.fields → Within r field.2 → Within r (.nested s)

/-- The rule may leave a field to the callback: it is that callback, or has it among its alternatives.
The callbacks inside lists and nested schemas see other values than the field's own. -/
inductive Asks (c : Callback) : Rule → Prop where
  | here : Asks c (.callback c)
  | alternative {r : Rule} {rules : List Rule} : r ∈ rules → Asks c r → Asks c (.oneOf rules)

/-- A rule that asks a callback has it inside. -/
theorem Asks.within {c : Callback} {r : Rule} (h : Asks c r) : Within (.callback c) r := by
  induction h with
  | here => exact .refl _
  | alternative hr _ ih => exact .oneOf hr ih

/-- A property holds of a rule and of all rules in it. -/
def Every (p : Rule → Prop) (r : Rule) : Prop :=
  ∀ r', Within r' r → p r'

section Every

variable {p q : Rule → Prop} {r : Rule}

/-- Rules inside a rule inside a rule are inside it. -/
theorem Within.trans {a b c : Rule} (h : Within a b) (h' : Within b c) : Within a c := by
  induction h' with
  | refl => exact h
  | list _ ih => exact .list ih
  | oneOf hm _ ih => exact .oneOf hm ih
  | nested hm _ ih => exact .nested hm ih

theorem Every.here (h : r.Every p) : p r :=
  h r (.refl r)

/-- What follows from a property of every rule inside is one, too. -/
theorem Every.mono (h : r.Every p) (imp : ∀ r', p r' → q r') : r.Every q :=
  fun r' hr => imp r' (h r' hr)

theorem Every.within (h : r.Every p) {r' : Rule} (hr : Within r' r) : r'.Every p :=
  fun r'' h'' => h r'' (h''.trans hr)

/-- `Every` goes down into the rule of a list. -/
theorem Every.inner {d : Discipline} (h : (Rule.list d r).Every p) : r.Every p :=
  h.within (.list (.refl r))

theorem Every.alternative {rules : List Rule} (h : (Rule.oneOf rules).Every p) (hr : r ∈ rules) :
    r.Every p :=
  h.within (.oneOf hr (.refl r))

theorem Every.field {s : Schema} {f : Key × Rule} (h : (Rule.nested s).Every p)
    (hf : f ∈ s.fields) : f.2.Every p :=
  h.within (.nested hf (.refl f.2))

@[simp]
theorem every_type_iff {tag : Tag} : (Rule.type tag).Every p ↔ p (.type tag) :=
  ⟨Every.here, fun h r' hr => by cases hr; exact h⟩

@[simp]
theorem every_callback_iff {c : Callback} : (Rule.callback c).Every p ↔ p (.callback c) :=
  ⟨Every.here, fun h r' hr => by cases hr; exact h⟩

@[simp]
theorem every_ignore_iff : Rule.ignore.Every p ↔ p .ignore :=
  ⟨Every.here, fun h r' hr => by cases hr; exact h⟩

/-- A list rule has a property inside iff it has it itself and its inner rule has it inside. -/
@[simp]
theorem every_list_iff {d : Discipline} : (Rule.list d r).Every p ↔ p (.list d r) ∧ r.Every p := by
  constructor
  · exact fun h => ⟨h.here, h.inner⟩
  · rintro ⟨here, inner⟩ r' hr
    cases hr with
    | refl => exact here
    | list hr => exact inner _ hr

@[simp]
theorem every_oneOf_iff {rules : List Rule} :
    (Rule.oneOf rules).Every p ↔ p (.oneOf rules) ∧ ∀ r ∈ rules, r.Every p := by
  constructor
  · exact fun h => ⟨h.here, fun r hr => h.alternative hr⟩
  · rintro ⟨here, alternatives⟩ r' hr
    cases hr with
    | refl => exact here
    | oneOf mem hr => exact alternatives _ mem _ hr

/-- A nested schema satisfies a property at every depth if it does so itself and its fields do. -/
@[simp]
theorem every_nested_iff {s : Schema} :
    (Rule.nested s).Every p ↔ p (.nested s) ∧ ∀ f ∈ s.fields, f.2.Every p := by
  constructor
  · exact fun h => ⟨h.here, fun f hf => h.field hf⟩
  · rintro ⟨here, fields⟩ r' hr
    cases hr with
    | refl => exact here
    | nested hf hr => exact fields _ hf _ hr

end Every

end Conform.Rule
