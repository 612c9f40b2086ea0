import Conform.Term.Basic

/-!
# The order of terms

A total order over all terms, by which sorted lists are sorted. Kinds follow each other in a fixed
succession; integers and floats form one kind and are compared as numbers, the integer first when
they are equal. Tuples and maps go by length first, lists item by item.

This is `total_cmp`, with its `rank` and `cmp_seq`.
-/

namespace Conform.Term

/-- The place of a term's kind; integers and floats share one. -/
def rank : Term → Nat
  | .integer _ | .float _ => 0
  | .atom _ => 1
  | .boolean _ => 2
  | .function _ => 3
  | .address _ => 4
  | .network _ => 5
  | .timestamp _ => 6
  | .uri _ => 7
  | .tuple _ => 8
  | .map _ => 9
  | .list _ => 10
  | .string _ => 11
  | .binary _ => 12

mutual

/-- The order of terms (`total_cmp`). -/
def order : Term → Term → Ordering
  | .integer a, .integer b => compare a b
  | .float a, .float b => compare a b
  | .integer a, .float b => (compare (Binary64.ofInt a.toInt) b).then .lt
  | .float a, .integer b => (compare a (Binary64.ofInt b.toInt)).then .gt
  | .atom a, .atom b => compare a b
  | .boolean a, .boolean b => compare a b
  | .function a, .function b => (compare a.arity b.arity).then (compare a.name b.name)
  | .address a, .address b => compare a b
  | .network a, .network b => compare a b
  | .timestamp a, .timestamp b => compare a b
  | .uri a, .uri b => compare a b
  | .tuple a, .tuple b => (compare a.length b.length).then (orderItems a b)
  | .map a, .map b => (compare a.length b.length).then (orderPairs a b)
  | .list a, .list b => orderItems a b
  | .string a, .string b => compare a b
  | .binary a, .binary b => compare a b
  | a, b => compare a.rank b.rank

/-- Item by item (`cmp_seq`); a sequence comes before its continuations. -/
def orderItems : List Term → List Term → Ordering
  | [], [] => .eq
  | [], _ :: _ => .lt
  | _ :: _, [] => .gt
  | a :: as, b :: bs => (order a b).then (orderItems as bs)

/-- Pair by pair: by key, then by value. -/
def orderPairs : List (Key × Term) → List (Key × Term) → Ordering
  | [], [] => .eq
  | [], _ :: _ => .lt
  | _ :: _, [] => .gt
  | (k, a) :: as, (l, b) :: bs =>
    ((compare k l).then (order a b)).then (orderPairs as bs)

end

/-- Whether a term may stand before another in a sorted list. -/
def le (a b : Term) : Bool :=
  (order a b).isLE

end Conform.Term
