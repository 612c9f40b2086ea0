import Conform.Level.Dispatch
import Conform.Proofs.ListRule
import Conform.Proofs.Pointwise
import Conform.Proofs.Rule.InOrder
import Conform.Proofs.Schema.Lookup
import Mathlib.Data.List.Perm.Basic

/-!
# The pairs of a tree

What a schema accepts is a tree: a pair's value may hold further levels of pairs, through nested
schemas and through lists of them. Its entries are the pairs of all levels under their dotted paths,
each followed by those within its value.

Disciplines rearrange lists. A tree whose lists are still in the order of the input becomes the accepted
one by arranging them from the inside out. Its pairs, shown with the values that they have in the end, are
those of the accepted tree, in another order, and those of the items that were left out on the way. Of
the latter, each is a repetition of an entry of the accepted tree.
-/

namespace Conform

/-! ## Listing a tree -/

mutual

/-- What is within a value of a rule: every pair of every level, under its path and with its value as
`shown`, followed by what is within that value. -/
def Rule.listing (symbols : SymbolTable) (shown : Rule → Term → Term) :
    Rule → Path → Term → List (Path × Term)
  | .list _ inner, path, .list items => inner.listingItems symbols shown path items
  | .nested s, path, .map pairs => s.listing symbols shown path pairs
  | _, _, _ => []

def Rule.listingItems (symbols : SymbolTable) (shown : Rule → Term → Term) :
    Rule → Path → List Term → List (Path × Term)
  | _, _, [] => []
  | r, path, t :: ts => r.listing symbols shown path t ++ r.listingItems symbols shown path ts

/-- The pairs of a level, each followed by what is within its value. -/
def Schema.listing (symbols : SymbolTable) (shown : Rule → Term → Term) :
    Schema → Path → List (Key × Term) → List (Path × Term)
  | _, _, [] => []
  | s, path, (k, v) :: ps =>
    (path.child k, (s.ruleFor? symbols k).elim v fun r => shown r v) ::
      ((s.ruleFor? symbols k).elim [] fun r => r.listing symbols shown (path.child k) v) ++
        s.listing symbols shown path ps

end

/-- The entries within a value of a rule. -/
def Rule.entries (symbols : SymbolTable) (r : Rule) (path : Path) (t : Term) : List (Path × Term) :=
  r.listing symbols (fun _ t => t) path t

/-- The entries of a level: its pairs, each followed by those within its value. -/
def Schema.entries (symbols : SymbolTable) (s : Schema) (path : Path) (pairs : Pairs) :
    List (Path × Term) :=
  s.listing symbols (fun _ t => t) path pairs

mutual

/-- A value with its lists arranged as the rule says, from the inside out. -/
def Rule.arranged (symbols : SymbolTable) : Rule → Term → Term
  | .list d inner, .list items => .list (ListRule.arrange (inner.arrangedItems symbols items) d)
  | .nested s, .map pairs => .map (s.arranged symbols pairs)
  | _, t => t

def Rule.arrangedItems (symbols : SymbolTable) : Rule → List Term → List Term
  | _, [] => []
  | r, t :: ts => r.arranged symbols t :: r.arrangedItems symbols ts

/-- The pairs of a level with the lists in their values arranged. -/
def Schema.arranged (symbols : SymbolTable) : Schema → List (Key × Term) → List (Key × Term)
  | _, [] => []
  | s, (k, v) :: ps =>
    (k, (s.ruleFor? symbols k).elim v fun r => r.arranged symbols v) :: s.arranged symbols ps

end

mutual

/-- The entries within the items that arranging a value leaves out. -/
def Rule.surplus (symbols : SymbolTable) : Rule → Path → Term → List (Path × Term)
  | .list d inner, path, .list items =>
    inner.surplusItems symbols path items ++
      (ListRule.dropped (inner.arrangedItems symbols items) d).flatMap (inner.entries symbols path)
  | .nested s, path, .map pairs => s.surplus symbols path pairs
  | _, _, _ => []

def Rule.surplusItems (symbols : SymbolTable) : Rule → Path → List Term → List (Path × Term)
  | _, _, [] => []
  | r, path, t :: ts => r.surplus symbols path t ++ r.surplusItems symbols path ts

def Schema.surplus (symbols : SymbolTable) : Schema → Path → List (Key × Term) → List (Path × Term)
  | _, _, [] => []
  | s, path, (k, v) :: ps =>
    ((s.ruleFor? symbols k).elim [] fun r => r.surplus symbols (path.child k) v) ++
      s.surplus symbols path ps

end

variable {symbols : SymbolTable} {shown : Rule → Term → Term}

namespace Rule

theorem listingItems_eq_flatMap (r : Rule) (path : Path) (items : List Term) :
    r.listingItems symbols shown path items = items.flatMap (r.listing symbols shown path) := by
  induction items with
  | nil => rfl
  | cons t ts ih => rw [listingItems, ih, List.flatMap_cons]

theorem arrangedItems_eq_map (r : Rule) (items : List Term) :
    r.arrangedItems symbols items = items.map (r.arranged symbols) := by
  induction items with
  | nil => rfl
  | cons t ts ih => rw [arrangedItems, ih, List.map_cons]

theorem surplusItems_eq_flatMap (r : Rule) (path : Path) (items : List Term) :
    r.surplusItems symbols path items = items.flatMap (r.surplus symbols path) := by
  induction items with
  | nil => rfl
  | cons t ts ih => rw [surplusItems, ih, List.flatMap_cons]

theorem entries_list (d : Discipline) (inner : Rule) (path : Path) (items : List Term) :
    (Rule.list d inner).entries symbols path (.list items)
      = items.flatMap (inner.entries symbols path) := by
  rw [entries, listing, listingItems_eq_flatMap]
  rfl

theorem entries_nested (s : Schema) (path : Path) (pairs : Pairs) :
    (Rule.nested s).entries symbols path (.map pairs) = s.entries symbols path pairs := by
  rw [entries, listing, Schema.entries]

/-- The rule looks into the value: a list of items, or a level of pairs. -/
inductive Opens : Rule → Term → Prop where
  | list (d : Discipline) (inner : Rule) (items : List Term) : Opens (.list d inner) (.list items)
  | nested (s : Schema) (pairs : Pairs) : Opens (.nested s) (.map pairs)

section Closed

variable {r : Rule} {t : Term} (closed : ¬Opens r t)

include closed

/-- A value that the rule does not open has no entries below it. -/
theorem listing_of_not_opens (path : Path) : r.listing symbols shown path t = [] := by
  cases r <;> cases t
  case list.list => exact absurd (.list _ _ _) closed
  case nested.map => exact absurd (.nested _ _) closed
  all_goals rfl

theorem arranged_of_not_opens : r.arranged symbols t = t := by
  cases r <;> cases t
  case list.list => exact absurd (.list _ _ _) closed
  case nested.map => exact absurd (.nested _ _) closed
  all_goals rfl

theorem surplus_of_not_opens (path : Path) : r.surplus symbols path t = [] := by
  cases r <;> cases t
  case list.list => exact absurd (.list _ _ _) closed
  case nested.map => exact absurd (.nested _ _) closed
  all_goals rfl

end Closed

/-- Induction over a tree along its rules. -/
theorem induct_tree {P : Rule → Term → Prop} (symbols : SymbolTable)
    (list : ∀ d inner items, (∀ t ∈ items, P inner t) → P (.list d inner) (.list items))
    (nested : ∀ (s : Schema) (pairs : Pairs),
      (∀ p ∈ pairs, ∀ r, s.ruleFor? symbols p.1 = some r → P r p.2) → P (.nested s) (.map pairs))
    (closed : ∀ r t, ¬Opens r t → P r t) (r : Rule) (t : Term) : P r t := by
  induction t using Term.induct generalizing r with
  | plain t tuple map list' =>
    apply closed
    rintro (_ | _)
    · exact list' rfl
    · exact map rfl
  | tuple items => exact closed _ _ nofun
  | map pairs ih =>
    cases r with
    | nested s => exact nested s pairs fun p hp r _ => ih p hp r
    | type | list | oneOf | callback | ignore => exact closed _ _ nofun
  | list items ih =>
    cases r with
    | list d inner => exact list d inner items fun t ht => ih t ht inner
    | type | nested | oneOf | callback | ignore => exact closed _ _ nofun

end Rule

namespace Schema

/-- The entries of a level: those of its first pair, and those of the others. -/
theorem entries_cons (s : Schema) (path : Path) (key : Key) (value : Term) (pairs : Pairs) :
    s.entries symbols path ((key, value) :: pairs) = (path.child key, value) ::
      ((s.ruleFor? symbols key).elim [] fun r => r.entries symbols (path.child key) value) ++
        s.entries symbols path pairs := by
  unfold entries
  rw [listing]
  cases s.ruleFor? symbols key <;> rfl

variable {s : Schema}

theorem arranged_append (ps qs : Pairs) :
    s.arranged symbols (ps ++ qs) = s.arranged symbols ps ++ s.arranged symbols qs := by
  induction ps with
  | nil => rfl
  | cons p ps ih => rw [List.cons_append, arranged, ih, arranged, List.cons_append]

theorem listing_append (path : Path) (ps qs : Pairs) :
    s.listing symbols shown path (ps ++ qs)
      = s.listing symbols shown path ps ++ s.listing symbols shown path qs := by
  induction ps with
  | nil => rfl
  | cons p ps ih => rw [List.cons_append, listing, ih, listing, List.append_assoc]

theorem keys_arranged (pairs : Pairs) :
    (s.arranged symbols pairs).map Prod.fst = pairs.map Prod.fst := by
  induction pairs with
  | nil => rfl
  | cons p ps ih => rw [arranged, List.map_cons, List.map_cons, ih]

end Schema

theorem Rule.Every.ruleFor {p : Rule → Prop} {s : Schema} (h : (Rule.nested s).Every p) {key : Key}
    {r : Rule} (hr : s.ruleFor? symbols key = some r) : r.Every p := by
  obtain ⟨k, -, mem⟩ := Schema.mem_of_ruleFor? hr
  exact h.field mem

/-! ## Nothing to arrange -/

section InOrder

variable {s : Schema} {pairs : Pairs}

theorem Schema.arranged_of_pairs (h : ∀ p ∈ pairs, ∀ r, s.ruleFor? symbols p.1 = some r →
    r.arranged symbols p.2 = p.2) : s.arranged symbols pairs = pairs := by
  induction pairs with
  | nil => rfl
  | cons p ps ih =>
    obtain ⟨here, others⟩ := List.forall_mem_cons.1 h
    rw [arranged, ih others]
    cases hr : s.ruleFor? symbols p.1 with
    | none => rfl
    | some r => exact congrArg (fun v => (p.1, v) :: ps) (here r hr)

/-- Where every list is in the order of the input, arranging changes nothing. -/
theorem Rule.arranged_of_keepsOrder {r : Rule} (h : r.Every KeepsOrder) (t : Term) :
    r.arranged symbols t = t := by
  induction r, t using induct_tree symbols with
  | list d inner items ih =>
    obtain rfl : d = .ordered := h.here
    have same : items.map (inner.arranged symbols) = items := by
      rw [List.map_congr_left fun t ht => ih t ht h.inner, List.map_id']
    rw [arranged, arrangedItems_eq_map, same, ListRule.arrange]
  | nested s pairs ih =>
    rw [arranged, Schema.arranged_of_pairs fun p hp r hr => ih p hp r hr (h.ruleFor hr)]
  | closed r t closed => exact arranged_of_not_opens closed

/-- Where no list is sorted nothing is rearranged. -/
theorem Schema.arranged_of_keepsOrder (h : (Rule.nested s).Every Rule.KeepsOrder) (pairs : Pairs) :
    s.arranged symbols pairs = pairs :=
  arranged_of_pairs fun p _ _ hr => Rule.arranged_of_keepsOrder (h.ruleFor hr) p.2

theorem Schema.listing_of_pairs (h : ∀ p ∈ pairs, ∀ r, s.ruleFor? symbols p.1 = some r →
      shown r p.2 = p.2 ∧ ∀ path, r.listing symbols shown path p.2 = r.entries symbols path p.2)
    (path : Path) : s.listing symbols shown path pairs = s.entries symbols path pairs := by
  induction pairs with
  | nil => rfl
  | cons p ps ih =>
    obtain ⟨here, others⟩ := List.forall_mem_cons.1 h
    rw [listing, entries_cons, ih others]
    cases hr : s.ruleFor? symbols p.1 with
    | none => rfl
    | some r =>
      obtain ⟨value, within⟩ := here r hr
      rw [Option.elim_some, Option.elim_some, Option.elim_some, value, within]

/-- Where values are shown as they are, a listing gives the entries. -/
theorem Rule.listing_of_keepsOrder {r : Rule} (h : r.Every KeepsOrder) (t : Term) (path : Path) :
    r.listing symbols (arranged symbols) path t = r.entries symbols path t := by
  induction r, t using induct_tree symbols generalizing path with
  | list d inner items ih =>
    rw [entries_list, listing, listingItems_eq_flatMap]
    exact List.flatMap_congr fun t ht => ih t ht h.inner path
  | nested s pairs ih =>
    rw [entries_nested, listing]
    refine Schema.listing_of_pairs (fun p hp r hr => ⟨?_, ?_⟩) path
    · exact arranged_of_keepsOrder (h.ruleFor hr) p.2
    · exact ih p hp r hr (h.ruleFor hr)
  | closed r t closed => rw [listing_of_not_opens closed, entries, listing_of_not_opens closed]

/-- Where no list is sorted the listing is the plain one of the entries. -/
theorem Schema.listing_of_keepsOrder (h : (Rule.nested s).Every Rule.KeepsOrder) (pairs : Pairs)
    (path : Path) :
    s.listing symbols (Rule.arranged symbols) path pairs = s.entries symbols path pairs :=
  listing_of_pairs (fun p _ _ hr => ⟨Rule.arranged_of_keepsOrder (h.ruleFor hr) p.2,
    Rule.listing_of_keepsOrder (h.ruleFor hr) p.2⟩) path

end InOrder

/-! ## Nothing is missing -/

section Surplus

variable {s : Schema} {pairs : Pairs}

theorem perm_append_four {α : Type} {a b c d e f : List α} (h : a.Perm (b ++ c))
    (h' : d.Perm (e ++ f)) : (a ++ d).Perm ((b ++ e) ++ (c ++ f)) := by
  apply (h.append h').trans
  rw [List.append_assoc, List.append_assoc]
  exact (List.perm_append_comm_assoc c e f).append_left b

/-- A listing in the input's order holds the entries of the arranged value and the surplus, for a
level if for each of its rules. -/
theorem Schema.perm_listing_of_pairs (h : ∀ p ∈ pairs, ∀ r, s.ruleFor? symbols p.1 = some r →
      ∀ path, (r.listing symbols (Rule.arranged symbols) path p.2).Perm
        (r.entries symbols path (r.arranged symbols p.2) ++ r.surplus symbols path p.2))
    (path : Path) : (s.listing symbols (Rule.arranged symbols) path pairs).Perm
      (s.entries symbols path (s.arranged symbols pairs) ++ s.surplus symbols path pairs) := by
  induction pairs with
  | nil => exact .nil
  | cons p ps ih =>
    obtain ⟨here, others⟩ := List.forall_mem_cons.1 h
    rw [listing, arranged, surplus, entries_cons]
    refine .cons _ (perm_append_four ?_ (ih others))
    cases hr : s.ruleFor? symbols p.1 with
    | none => exact .nil
    | some r => exact here r hr _

/-- The pairs of a tree, shown with their values arranged, are the entries of the arranged tree and its
surplus, each of them once. -/
theorem Rule.perm_listing (r : Rule) (t : Term) (path : Path) :
    (r.listing symbols (arranged symbols) path t).Perm
      (r.entries symbols path (r.arranged symbols t) ++ r.surplus symbols path t) := by
  induction r, t using induct_tree symbols generalizing path with
  | list d inner items ih =>
    -- Item by item in the order of the input, then kept and left out.
    have each : (items.flatMap (inner.listing symbols (arranged symbols) path)).Perm
        ((items.map (inner.arranged symbols)).flatMap (inner.entries symbols path) ++
          items.flatMap (inner.surplus symbols path)) := by
      rw [List.flatMap_map]
      exact (List.Perm.flatMap_left _ fun t ht => ih t ht path).trans
        (List.flatMap_append_perm _ _ _).symm
    have kept := (ListRule.perm_arrange (items.map (inner.arranged symbols)) d).flatMap_right
      (inner.entries symbols path)
    rw [List.flatMap_append] at kept
    rw [listing, arranged, surplus, entries_list, listingItems_eq_flatMap, arrangedItems_eq_map,
      surplusItems_eq_flatMap]
    refine each.trans ((kept.append_right _).trans ?_)
    rw [List.append_assoc]
    exact List.perm_append_comm.append_left _
  | nested s pairs ih =>
    rw [listing, arranged, surplus, entries_nested]
    exact Schema.perm_listing_of_pairs ih path
  | closed r t closed =>
    rw [listing_of_not_opens closed, arranged_of_not_opens closed, surplus_of_not_opens closed, entries,
      listing_of_not_opens closed]
    exact .nil

/-- For every schema, without a condition: the surplus is exactly what `unique` leaves behind. -/
theorem Schema.perm_listing (s : Schema) (pairs : Pairs) (path : Path) :
    (s.listing symbols (Rule.arranged symbols) path pairs).Perm
      (s.entries symbols path (s.arranged symbols pairs) ++ s.surplus symbols path pairs) :=
  perm_listing_of_pairs (fun p _ r _ => r.perm_listing p.2) path

/-! ## Only repetitions are left out -/

/-- One path and equal values. -/
def SameEntry (e f : Path × Term) : Prop :=
  e.1 = f.1 ∧ Term.order e.2 f.2 = .eq

/-- Terms that `order` does not tell apart are opened by the same rules. -/
theorem Rule.opens_of_order {r : Rule} {a b : Term} (h : Term.order a b = .eq) (opens : Opens r a) :
    Opens r b := by
  cases opens with
  | list d inner items =>
    obtain ⟨items', rfl, -⟩ := Term.exists_of_order_list h
    exact .list d inner items'
  | nested s pairs =>
    obtain ⟨pairs', rfl, -⟩ := Term.exists_of_order_map h
    exact .nested s pairs'

/-- They also have the same entries, up to such terms. -/
theorem Schema.sameEntry_of_pairs {qs : Pairs}
    (same : List.Forall₂ (fun p q => p.1 = q.1 ∧ Term.order p.2 q.2 = .eq) pairs qs)
    (h : ∀ p ∈ pairs, ∀ r, s.ruleFor? symbols p.1 = some r → ∀ b path, Term.order p.2 b = .eq →
      List.Forall₂ SameEntry (r.entries symbols path p.2) (r.entries symbols path b))
    (path : Path) :
    List.Forall₂ SameEntry (s.entries symbols path pairs) (s.entries symbols path qs) := by
  induction same with
  | nil => exact .nil
  | @cons p q ps qs first _ ih =>
    obtain ⟨here, others⟩ := List.forall_mem_cons.1 h
    obtain ⟨k, v⟩ := q
    obtain ⟨rfl, value⟩ := first
    rw [entries_cons, entries_cons]
    refine .cons ⟨rfl, value⟩ (List.rel_append ?_ (ih others))
    cases hr : s.ruleFor? symbols p.1 with
    | none => exact .nil
    | some r => exact here r hr v _ value

/-- Equal values have equal entries. -/
theorem Rule.sameEntry_of_order (r : Rule) {a b : Term} (h : Term.order a b = .eq) (path : Path) :
    List.Forall₂ SameEntry (r.entries symbols path a) (r.entries symbols path b) := by
  induction r, a using induct_tree symbols generalizing b path with
  | list d inner items ih =>
    obtain ⟨items', rfl, same⟩ := Term.exists_of_order_list h
    rw [entries_list, entries_list]
    clear h
    induction same with
    | nil => exact .nil
    | cons first _ ih' =>
      obtain ⟨here, others⟩ := List.forall_mem_cons.1 ih
      rw [List.flatMap_cons, List.flatMap_cons]
      exact List.rel_append (here first path) (ih' others)
  | nested s pairs ih =>
    obtain ⟨pairs', rfl, same⟩ := Term.exists_of_order_map h
    rw [entries_nested, entries_nested]
    exact Schema.sameEntry_of_pairs same (fun p hp r hr b path hb => ih p hp r hr hb path) path
  | closed r a closed =>
    have closed' : ¬Opens r b := by
      have swapped : Term.order b a = .eq := by rw [Term.order_swap a b, h]; rfl
      exact fun opens => closed (opens_of_order swapped opens)
    rw [entries, entries, listing_of_not_opens closed, listing_of_not_opens closed']
    exact .nil

theorem SameEntry.trans {e f g : Path × Term} (h : SameEntry e f) (h' : SameEntry f g) :
    SameEntry e g := by
  refine ⟨h.1.trans h'.1, ?_⟩
  rw [Std.TransCmp.congr_left h.2]
  exact h'.2

theorem Schema.repeated_of_pairs (h : ∀ p ∈ pairs, ∀ r, s.ruleFor? symbols p.1 = some r →
      ∀ path, ∀ e ∈ r.surplus symbols path p.2,
        ∃ f ∈ r.entries symbols path (r.arranged symbols p.2), SameEntry e f)
    (path : Path) : ∀ e ∈ s.surplus symbols path pairs,
      ∃ f ∈ s.entries symbols path (s.arranged symbols pairs), SameEntry e f := by
  induction pairs with
  | nil => exact List.forall_mem_nil _
  | cons p ps ih =>
    obtain ⟨here, others⟩ := List.forall_mem_cons.1 h
    rw [surplus, arranged, entries_cons]
    intro e he
    rcases List.mem_append.1 he with he | he
    · cases hr : s.ruleFor? symbols p.1 with
      | none => rw [hr] at he; cases he
      | some r =>
        rw [hr] at he
        obtain ⟨f, hf, same⟩ := here r hr _ e he
        exact ⟨f, List.mem_append_left _ (List.mem_cons_of_mem _ hf), same⟩
    · obtain ⟨f, hf, same⟩ := ih others e he
      exact ⟨f, List.mem_append_right _ hf, same⟩

/-- What is left out of a tree is a repetition of an entry that is in it. -/
theorem Rule.repeated_of_surplus (r : Rule) (t : Term) (path : Path) :
    ∀ e ∈ r.surplus symbols path t,
      ∃ f ∈ r.entries symbols path (r.arranged symbols t), SameEntry e f := by
  induction r, t using induct_tree symbols generalizing path with
  | list d inner items ih =>
    rw [surplus, arranged, entries_list, surplusItems_eq_flatMap, arrangedItems_eq_map]
    -- An entry of any item has its like in the item that is kept for it.
    have kept : ∀ u ∈ items.map (inner.arranged symbols), ∀ f ∈ inner.entries symbols path u,
        ∃ g ∈ (ListRule.arrange (items.map (inner.arranged symbols)) d).flatMap
          (inner.entries symbols path), SameEntry f g := by
      intro u hu f hf
      obtain ⟨v, hv, equal⟩ := ListRule.exists_kept (d := d) hu
      obtain ⟨g, hg, same⟩ := exists_of_forall₂ (inner.sameEntry_of_order equal path) hf
      exact ⟨g, List.mem_flatMap.2 ⟨v, hv, hg⟩, same⟩
    intro e he
    rcases List.mem_append.1 he with he | he
    · obtain ⟨t, ht, he⟩ := List.mem_flatMap.1 he
      obtain ⟨f, hf, same⟩ := ih t ht path e he
      obtain ⟨g, hg, same'⟩ := kept _ (List.mem_map_of_mem ht) f hf
      exact ⟨g, hg, same.trans same'⟩
    · obtain ⟨u, hu, he⟩ := List.mem_flatMap.1 he
      have mem := (ListRule.perm_arrange (items.map (inner.arranged symbols)) d).mem_iff.2
        (List.mem_append_right _ hu)
      exact kept u mem e he
  | nested s pairs ih =>
    rw [surplus, arranged, entries_nested]
    exact Schema.repeated_of_pairs ih path
  | closed r t closed =>
    rw [surplus_of_not_opens closed]
    exact List.forall_mem_nil _

/-- Each surplus entry repeats one that is there: `unique` drops an element only beside one that
ties with it. -/
theorem Schema.repeated_of_surplus (s : Schema) (pairs : Pairs) (path : Path) :
    ∀ e ∈ s.surplus symbols path pairs,
      ∃ f ∈ s.entries symbols path (s.arranged symbols pairs), SameEntry e f :=
  repeated_of_pairs (fun p _ r _ => r.repeated_of_surplus p.2) path

/-! ## Nothing is left out -/

theorem Schema.surplus_of_pairs (h : ∀ p ∈ pairs, ∀ r, s.ruleFor? symbols p.1 = some r →
    ∀ path, r.surplus symbols path p.2 = []) (path : Path) : s.surplus symbols path pairs = [] := by
  induction pairs with
  | nil => rfl
  | cons p ps ih =>
    obtain ⟨here, others⟩ := List.forall_mem_cons.1 h
    rw [surplus, ih others]
    cases hr : s.ruleFor? symbols p.1 with
    | none => rfl
    | some r => rw [Option.elim_some, here r hr, List.append_nil]

/-- Lists that keep all their values leave no surplus. -/
theorem Rule.surplus_of_keepsAll {r : Rule} (h : r.Every KeepsAll) (t : Term) (path : Path) :
    r.surplus symbols path t = [] := by
  induction r, t using induct_tree symbols generalizing path with
  | list d inner items ih =>
    have none : ListRule.dropped (inner.arrangedItems symbols items) d = [] := by
      cases d with
      | ordered | sorted => rfl
      | unique => exact absurd rfl h.here
    rw [surplus, surplusItems_eq_flatMap, none, List.flatMap_nil, List.append_nil]
    exact List.flatMap_eq_nil_iff.2 fun t ht => ih t ht h.inner path
  | nested s pairs ih =>
    rw [surplus]
    exact Schema.surplus_of_pairs (fun p hp r hr => ih p hp r hr (h.ruleFor hr)) path
  | closed r t closed => exact surplus_of_not_opens closed path

/-- Where no list drops anything there is no surplus. -/
theorem Schema.surplus_of_keepsAll (h : (Rule.nested s).Every Rule.KeepsAll) (pairs : Pairs)
    (path : Path) : s.surplus symbols path pairs = [] :=
  surplus_of_pairs (fun p _ _ hr => Rule.surplus_of_keepsAll (h.ruleFor hr) p.2) path

end Surplus

end Conform
