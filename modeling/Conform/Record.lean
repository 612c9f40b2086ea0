/-!
# Records in documents

A record is written as an object with its fields by name, or as a sequence with its fields in their
order. Fields may be left out, in a sequence those at the end; fields of other names are passed
over; a field that comes twice is an error. How a kind of document shows fields, texts and truth
values is all that reading records needs to know about it.
-/

namespace Conform

/-- How records are read from a kind of document. -/
structure Records (α : Type) where
  /-- The fields of a record with the given ones, by name. -/
  fields? : List String → α → Option (List (String × α))
  text? : α → Option String
  flag? : α → Option Bool

namespace Records

/-- The content of a field that may be left out; the outer option fails if it comes twice. -/
def single? {α : Type} (name : String) (fields : List (String × α)) : Option (Option α) :=
  match fields.filter (·.1 == name) with
  | [] => some none
  | [field] => some (some field.2)
  | _ => none

/-- The value of a field, or a given one if the field is left out. -/
def field? {α β : Type} (name : String) (read : α → Option β) (default : β)
    (fields : List (String × α)) : Option β := do
  match ← single? name fields with
  | some content => read content
  | none => return default

def inOrder? {α : Type} (names : List String) (items : List α) : Option (List (String × α)) :=
  if items.length ≤ names.length then some (names.zip items) else none

end Records

end Conform
