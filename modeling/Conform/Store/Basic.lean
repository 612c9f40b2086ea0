import Conform.Integer
import Conform.Store.Slot
import Conform.Term.Inspect

/-!
# The store

Terms in slots. A value that is put replaces the one before; counting up treats a missing value
as zero and refuses anything that is no integer, and any sum that does not fit. A refusal leaves the
store as it is.

This is `ConfigStore`, with `get`, `put`, `delete`, `atomic_increment` and `scope_entries`.
-/

namespace Conform

open Conform.Text

/-- Terms by their slots: the content of a `ConfigStore`. -/
structure Store where
  values : Std.TreeMap Slot Term

namespace Store

def empty : Store := ⟨∅⟩

instance : Inhabited Store := ⟨empty⟩

def get? (s : Store) (a : Slot) : Option Term :=
  s.values[a]?

/-- The value in a slot, or a given one if there is none (`ConfigStore::get`). -/
def getD (s : Store) (a : Slot) (default : Term) : Term :=
  (s.get? a).getD default

/-- Stores a value in place of any before. -/
def put (s : Store) (a : Slot) (value : Term) : Store :=
  ⟨s.values.insert a value⟩

def delete (s : Store) (a : Slot) : Store :=
  ⟨s.values.erase a⟩

/-- Removes the value in a slot, and gives it if there was one (`ConfigStore::delete`). -/
def remove (s : Store) (a : Slot) : Option Term × Store :=
  (s.get? a, s.delete a)

def size (s : Store) : Nat :=
  s.values.size

def isEmpty (s : Store) : Bool :=
  s.values.isEmpty

/-- The keys and values of a scope, ascending by key (`scope_entries`). -/
def entries (s : Store) (owner scope : String) : List (String × Term) :=
  s.values.toList.filterMap fun (a, value) =>
    if a.owner = owner ∧ a.scope = scope then some (a.key, value) else none

/-! ## Counting -/

/-- Why a value cannot be counted up: `StoreError`. -/
inductive CountFault where
  /-- The value is of another kind. -/
  | notInteger (slot : Slot) (kind : String)
  /-- The sum does not fit into 64 bits. -/
  | overflow (slot : Slot) (delta : Int64)

def CountFault.message : CountFault → String
  | .notInteger slot kind =>
    "cannot increment " ++ slot.text ++ ": stored value is " ++ kind ++ ", not an integer"
  | .overflow slot delta =>
    "incrementing " ++ slot.text ++ " by " ++ decimalInt delta.toInt ++ " overflows"

/-- The integer that a count in a slot leads to. -/
def count (s : Store) (a : Slot) (delta : Int64) : Except CountFault Int64 :=
  match s.get? a with
  | none => .ok delta
  | some (.integer i) =>
    match toInt64? (i.toInt + delta.toInt) with
    | some sum => .ok sum
    | none => .error (.overflow a delta)
  | some t => .error (.notInteger a t.kind)

/-- Counts up, and gives the new integer or the reason why not (`atomic_increment`). -/
def increment (s : Store) (a : Slot) (delta : Int64) : Except CountFault Int64 × Store :=
  match s.count a delta with
  | .ok i => (.ok i, s.put a (.integer i))
  | .error fault => (.error fault, s)

end Store

end Conform
