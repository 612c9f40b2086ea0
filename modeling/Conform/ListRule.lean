import Conform.Term.Order
import Conform.Term.Views

/-!
# Lists of values

A field that holds many values may be given one of them alone. Which terms are one value and which
are many is decided by shape: a list is many unless it is a nonempty list of character codes, which
is one text; everything else is one value. The results keep the input's order, or are sorted, or are
sorted and freed from repetitions.

These are `elements`, `apply_discipline` and `validate_list`.
-/

namespace Conform

/-- What becomes of the order of a list's values: `Multiplicity`. -/
inductive Discipline where
  /-- The order of the input. -/
  | ordered
  /-- Ascending; equal values keep the order of the input. -/
  | sorted
  /-- Ascending, and of equal values the first one only. -/
  | unique
deriving DecidableEq

namespace ListRule

open Term

/-- The values that a term holds (`elements`): the items of a list that is no text, or the term
alone. -/
def elements (t : Term) : List Term :=
  match t with
  | .list items => if !items.isEmpty && isCharList items then [t] else items
  | _ => [t]

/-- The items that differ from the one before them. -/
def dropRepeatsOf (before : Term) : List Term → List Term
  | [] => []
  | t :: ts => if order t before = .eq then dropRepeatsOf before ts else t :: dropRepeatsOf t ts

/-- The items without those equal to the one before them, as `dedup_by` leaves them. -/
def dropRepeats : List Term → List Term
  | [] => []
  | t :: ts => t :: dropRepeatsOf t ts

/-- The items in the order of a discipline (`apply_discipline`). -/
def arrange (items : List Term) : Discipline → List Term
  | .ordered => items
  | .sorted => items.mergeSort le
  | .unique => dropRepeats (items.mergeSort le)

/-- Applies a step to each item from the left and keeps what it keeps. -/
def collect [Monad m] (step : Term → m (Option Term)) : List Term → m (List Term)
  | [] => pure []
  | t :: ts => do
    let kept ← step t
    let rest ← collect step ts
    match kept with
    | some t => pure (t :: rest)
    | none => pure rest

/-- Validates each value of a term and arranges the results (`validate_list`). -/
def validate [Monad m] (d : Discipline) (step : Term → m (Option Term)) (t : Term) : m Term := do
  let kept ← collect step (elements t)
  pure (.list (arrange kept d))

end ListRule

end Conform
