import Conform.Proofs.Rule.Depth
import Conform.Proofs.Schema.Lookup

/-!
# Lists in the order of the input

A list rule sorts its values or leaves them in the order of the input. `Rule.inOrder` is the rule that
takes the same values and leaves all of them as they come.
-/

namespace Conform

/-- A rule that is no list, or a list that keeps the order of its values. -/
def Rule.KeepsOrder : Rule → Prop
  | .list d _ => d = .ordered
  | _ => True

/-- A rule that is no list, or a list that keeps all its values. -/
def Rule.KeepsAll : Rule → Prop
  | .list d _ => d ≠ .unique
  | _ => True

mutual

/-- The rule with every list in the order of the input. -/
def Rule.inOrder : Rule → Rule
  | .type tag => .type tag
  | .list _ inner => .list .ordered inner.inOrder
  | .oneOf alternatives => .oneOf (Rule.inOrderAll alternatives)
  | .nested s => .nested s.inOrder
  | .callback c => .callback c
  | .ignore => .ignore

/-- The schema with every list in the order of the input. -/
def Schema.inOrder : Schema → Schema
  | ⟨fields, defaults, mandatory⟩ => ⟨Rule.inOrderFields fields, defaults, mandatory⟩

def Rule.inOrderAll : List Rule → List Rule
  | [] => []
  | r :: rs => r.inOrder :: Rule.inOrderAll rs

def Rule.inOrderFields : List (Key × Rule) → List (Key × Rule)
  | [] => []
  | (k, r) :: fs => (k, r.inOrder) :: Rule.inOrderFields fs

end

theorem Rule.inOrderFields_eq_map (fields : List (Key × Rule)) :
    inOrderFields fields = fields.map fun f => (f.1, f.2.inOrder) := by
  induction fields with
  | nil => rw [inOrderFields, List.map_nil]
  | cons f fs ih => rw [inOrderFields, ih, List.map_cons]

namespace Schema

theorem inOrder_fields (s : Schema) :
    s.inOrder.fields = s.fields.map fun f => (f.1, f.2.inOrder) := by
  cases s
  exact Rule.inOrderFields_eq_map _

/-- Reading every list in order does not change which rule a key has. -/
theorem ruleFor?_inOrder (symbols : SymbolTable) (s : Schema) (key : Key) :
    s.inOrder.ruleFor? symbols key = (s.ruleFor? symbols key).map Rule.inOrder := by
  rw [ruleFor?, inOrder_fields, valueFor?_map, ruleFor?]

theorem inOrder_defaults (s : Schema) : s.inOrder.defaults = s.defaults := by
  cases s
  rfl

theorem inOrder_mandatoryKeys (s : Schema) : s.inOrder.mandatoryKeys = s.mandatoryKeys := by
  cases s
  rfl

end Schema

end Conform
