import Conform.Schema.Basic

/-!
# Merging

An update laid over a base. Where both have maps (nested schemas, or maps among the values) these
are merged in turn; everywhere else the update's value replaces the base's. The base's keys keep
their places, the update's new keys follow in their own order.

These are `merge`, `merge_terms`, `merge_pairs`, `add_defaults` and `add_mandatory`.
-/

namespace Conform

/-- Changes the first entry of the same name, or adds one at the end. -/
def upsert {α : Type} (key : Key) (change : α → α) (new : α) : List (Key × α) → List (Key × α)
  | [] => [(key, new)]
  | (k, v) :: rest =>
    if k.sameName key then (k, change v) :: rest else (k, v) :: upsert key change new rest

namespace Term

mutual

/-- A term laid over another (`merge_terms`): maps are merged, anything else replaces what it
covers. -/
def mergeOver : Term → Term → Term
  | .map update, base =>
    match base with
    | .map pairs => .map (mergePairs update pairs)
    | _ => .map update
  | update, _ => update

/-- Pairs laid over others, one after another (`merge_pairs`). -/
def mergePairs : List (Key × Term) → List (Key × Term) → List (Key × Term)
  | [], base => base
  | (k, v) :: rest, base => mergePairs rest (upsert k v.mergeOver v base)

end

end Term

mutual

/-- A rule laid over another: nested schemas are merged, anything else replaces what it covers. -/
def Rule.mergeOver : Rule → Rule → Rule
  | .nested update, base =>
    match base with
    | .nested s => .nested (Schema.merge update s)
    | _ => .nested update
  | update, _ => update

/-- A schema laid over another (`merge`). The mandatory keys count as one value. -/
def Schema.merge : Schema → Schema → Schema
  | ⟨fields, defaults, mandatory⟩, base =>
    ⟨Rule.mergeFields fields base.fields, Term.mergePairs defaults base.defaults,
     mandatory.or base.mandatory⟩

def Rule.mergeFields : List (Key × Rule) → List (Key × Rule) → List (Key × Rule)
  | [], base => base
  | (k, r) :: rest, base => Rule.mergeFields rest (upsert k r.mergeOver r base)

end

namespace Schema

/-- Lays defaults over those of a schema (`add_defaults`). -/
def addDefaults (defaults : Pairs) (s : Schema) : Schema :=
  merge ⟨[], defaults, none⟩ s

/-- Declares the mandatory keys of a schema (`add_mandatory`). -/
def addMandatory (keys : List Key) (s : Schema) : Schema :=
  merge ⟨[], [], some (distinctKeys keys)⟩ s

end Schema

end Conform
