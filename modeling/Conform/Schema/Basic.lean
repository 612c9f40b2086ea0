import Conform.Rule

/-!
# Building and reading schemas

Every step of building keeps the names of the fields distinct, and so those of the defaults and of
the mandatory keys: a later declaration takes the place of an earlier one of the same name, at the
end. Looking a key up finds the field of the same kind of key first, then the one of the other kind;
a text finds a symbol only if that symbol exists.

These are `field_key`, `field`, `default_value`, `mandatory` and `rule_for`, with `dedup_keys`.
-/

namespace Conform

/-- The value under exactly this key, kind and name: the first try of `rule_for`. -/
def valueAt? {α : Type} (table : List (Key × α)) (key : Key) : Option α :=
  (table.find? fun entry => entry.1 == key).map (·.2)

/-- The value under this key, or under the key of the other kind with the same name (`rule_for`). -/
def valueFor? {α : Type} (symbols : SymbolTable) (table : List (Key × α)) (key : Key) : Option α :=
  (valueAt? table key).orElse fun _ =>
    match key with
    | .symbol s => valueAt? table (.text s.name)
    | .text t => (symbols.existing? t).bind fun s => valueAt? table (.symbol s)

/-- The table with this entry at its end and no other of the same name. -/
def place {α : Type} (table : List (Key × α)) (key : Key) (value : α) : List (Key × α) :=
  (table.filter fun entry => !entry.1.sameName key) ++ [(key, value)]

/-- The loop of `dedup_keys`: the keys without those whose name an earlier one has; `kept` are the
earlier ones. -/
def distinctAfter (kept : List Key) : List Key → List Key
  | [] => kept
  | k :: ks =>
    distinctAfter (if kept.any (·.sameName k) then kept else kept ++ [k]) ks

def distinctKeys (keys : List Key) : List Key :=
  distinctAfter [] keys

namespace Schema

def empty : Schema := ⟨[], [], none⟩

instance : Inhabited Schema := ⟨empty⟩

/-- Adds a field, or replaces the one of the same name (`field_key`). -/
def withField (s : Schema) (key : Key) (rule : Rule) : Schema :=
  { s with fields := place s.fields key rule }

/-- Adds a default, or replaces the one of the same name. -/
def withDefault (s : Schema) (key : Key) (value : Term) : Schema :=
  { s with defaults := place s.defaults key value }

/-- Declares the mandatory keys, in place of any earlier ones. -/
def withMandatory (s : Schema) (keys : List Key) : Schema :=
  { s with mandatory := some (distinctKeys keys) }

/-- Adds a field under a symbol, which is created (`Schema::field`). -/
def field (s : Schema) (name : String) (rule : Rule) : Creating Schema := do
  let symbol ← Session.intern name
  return s.withField (.symbol symbol) rule

/-- Adds a default under a symbol, which is created (`default_value`). -/
def defaultValue (s : Schema) (name : String) (value : Term) : Creating Schema := do
  let symbol ← Session.intern name
  return s.withDefault (.symbol symbol) value

/-- Declares mandatory symbols, which are created (`Schema::mandatory`). -/
def mandatoryNames (s : Schema) (names : List String) : Creating Schema := do
  let symbols ← names.mapM Session.intern
  return s.withMandatory (symbols.map .symbol)

/-- The rule of a key, if the key has one (`Schema::rule_for`). -/
def ruleFor? (symbols : SymbolTable) (s : Schema) (key : Key) : Option Rule :=
  valueFor? symbols s.fields key

/-- The keys that must be there, in the order of their declaration. -/
def mandatoryKeys (s : Schema) : List Key :=
  s.mandatory.getD []

end Schema

end Conform
