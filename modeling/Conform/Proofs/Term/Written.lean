import Conform.Proofs.Json.Members
import Conform.Proofs.Schema.Built
import Conform.Proofs.Term.Order
import Conform.Term.Json
import Conform.Term.Views

/-!
# Terms that have been written and read back

A term that goes through JSON comes back as what JSON has for it: symbols, addresses and the like as
their texts, tuples as lists, and every key as a text. `Term.written` is that term. Two things get lost
on the way: a float that is no number becomes a null, and of several pairs of one name an object holds
one. Terms without either are faithful, and these come back as written, with nothing created.
-/

namespace Conform

namespace Term

/-! ## Terms within terms -/

/-- The first term is the second one or occurs in it. -/
inductive Within : Term → Term → Prop where
  | refl (t : Term) : Within t t
  | item {t item : Term} {items : List Term} : item ∈ items → Within t item → Within t (.list items)
  | part {t part : Term} {parts : List Term} :
    part ∈ parts → Within t part → Within t (.tuple parts)
  | value {t : Term} {pair : Key × Term} {pairs : Pairs} :
    pair ∈ pairs → Within t pair.2 → Within t (.map pairs)

/-- A property holds of a term and of all terms in it. -/
def Every (p : Term → Prop) (t : Term) : Prop :=
  ∀ t', Within t' t → p t'

section Every

variable {p : Term → Prop} {t : Term}

/-- Terms inside a term inside a term are inside it. -/
theorem Within.trans {a b c : Term} (h : Within a b) (h' : Within b c) : Within a c := by
  induction h' with
  | refl => exact h
  | item mem _ ih => exact .item mem ih
  | part mem _ ih => exact .part mem ih
  | value mem _ ih => exact .value mem ih

theorem Every.here (h : t.Every p) : p t :=
  h t (.refl t)

theorem Every.within (h : t.Every p) {t' : Term} (ht : Within t' t) : t'.Every p :=
  fun _ h' => h _ (h'.trans ht)

theorem Every.item {items : List Term} (h : (Term.list items).Every p) (ht : t ∈ items) : t.Every p :=
  h.within (.item ht (.refl t))

theorem Every.part {parts : List Term} (h : (Term.tuple parts).Every p) (ht : t ∈ parts) : t.Every p :=
  h.within (.part ht (.refl t))

theorem Every.value {pairs : Pairs} (h : (Term.map pairs).Every p) {pair : Key × Term}
    (ht : pair ∈ pairs) : pair.2.Every p :=
  h.within (.value ht (.refl pair.2))

/-- A term without parts has nothing in it but itself. -/
@[simp]
theorem every_plain_iff (list : ∀ items, t ≠ .list items) (tuple : ∀ parts, t ≠ .tuple parts)
    (map : ∀ pairs, t ≠ .map pairs) : t.Every p ↔ p t := by
  refine ⟨Every.here, fun here t' within => ?_⟩
  cases within with
  | refl => exact here
  | item => exact absurd rfl (list _)
  | part => exact absurd rfl (tuple _)
  | value => exact absurd rfl (map _)

@[simp]
theorem every_list_iff {items : List Term} :
    (Term.list items).Every p ↔ p (.list items) ∧ ∀ t ∈ items, t.Every p := by
  constructor
  · exact fun h => ⟨h.here, fun t ht => h.item ht⟩
  · rintro ⟨here, each⟩ t' within
    cases within with
    | refl => exact here
    | item mem within => exact each _ mem _ within

@[simp]
theorem every_tuple_iff {parts : List Term} :
    (Term.tuple parts).Every p ↔ p (.tuple parts) ∧ ∀ t ∈ parts, t.Every p := by
  constructor
  · exact fun h => ⟨h.here, fun t ht => h.part ht⟩
  · rintro ⟨here, each⟩ t' within
    cases within with
    | refl => exact here
    | part mem within => exact each _ mem _ within

/-- A map satisfies a property at every depth if it does so itself and its values do. -/
@[simp]
theorem every_map_iff {pairs : Pairs} :
    (Term.map pairs).Every p ↔ p (.map pairs) ∧ ∀ pair ∈ pairs, pair.2.Every p := by
  constructor
  · exact fun h => ⟨h.here, fun pair hp => h.value hp⟩
  · rintro ⟨here, each⟩ t' within
    cases within with
    | refl => exact here
    | value mem within => exact each _ mem _ within

theorem exists_of_mapM {α β : Type} {f : α → Option β} {as : List α} {bs : List β}
    (h : as.mapM f = some bs) {b : β} (hb : b ∈ bs) : ∃ a ∈ as, f a = some b := by
  induction as generalizing bs with
  | nil =>
    cases h
    cases hb
  | cons a as ih =>
    rw [List.mapM_cons] at h
    obtain ⟨b', first, h⟩ := Option.bind_eq_some_iff.1 h
    obtain ⟨bs', others, h⟩ := Option.bind_eq_some_iff.1 h
    cases h
    rcases List.mem_cons.1 hb with rfl | hb
    · exact ⟨a, List.mem_cons_self, first⟩
    · obtain ⟨a', ha', same⟩ := ih others hb
      exact ⟨a', List.mem_cons_of_mem _ ha', same⟩

/-- The value of a pair is inside the term that was read as the pair. -/
theorem within_of_pairOf? {pair : Key × Term} (h : pairOf? t = some pair) : Within pair.2 t := by
  unfold pairOf? at h
  split at h
  · obtain ⟨key, -, rfl⟩ := Option.map_eq_some_iff.1 h
    exact .part (List.mem_cons_of_mem _ List.mem_cons_self) (.refl _)
  · cases h

/-- A value of a term's pairs occurs in the term. -/
theorem within_of_pairs? {pairs : Pairs} (h : t.pairs? = some pairs) {pair : Key × Term}
    (hp : pair ∈ pairs) : Within pair.2 t := by
  cases t with
  | map given =>
    cases h
    exact .value hp (.refl _)
  | list items =>
    obtain ⟨item, hitem, same⟩ := exists_of_mapM h hp
    exact .item hitem (within_of_pairOf? same)
  | _ => cases h

end Every

/-- A term that is no map, or a map that bears each name once. -/
def NamedOnce : Term → Prop
  | .map pairs => DistinctNames pairs
  | _ => True

/-! ## What comes back -/

/-- A term of which nothing gets lost in JSON, as far as it is not within the term. -/
def Faithful : Term → Prop
  | .float x => x.isFinite = true
  | .map pairs => DistinctNames pairs
  | _ => True

mutual

/-- What a faithful term is after it has been written and read. -/
def written : Term → Term
  | .atom a => .string a.name
  | .boolean b => .boolean b
  | .integer i => .integer i
  | .float x => .float x
  | .string s => .string s
  | .binary bytes =>
    match Text.Utf8.decode bytes with
    | some cs => .string (String.ofList cs)
    | none => .list (bytes.map fun b => .integer (Int64.ofNat b.toNat))
  | .list items => .list (writtenItems items)
  | .tuple items => .list (writtenItems items)
  | .map pairs => .map (writtenPairs pairs)
  | .address a => .string a.text
  | .network n => .string n.text
  | .uri u => .string u.text
  | .timestamp t => .string t.text
  | .function f => .string f.inspect

def writtenItems : List Term → List Term
  | [] => []
  | t :: ts => t.written :: writtenItems ts

/-- Pairs after they have been written and read: their keys are texts. -/
def writtenPairs : List (Key × Term) → List (Key × Term)
  | [] => []
  | (k, t) :: ps => (.text k.name, t.written) :: writtenPairs ps

end

theorem writtenItems_eq_map (items : List Term) : writtenItems items = items.map written := by
  induction items with
  | nil => rw [writtenItems, List.map_nil]
  | cons t ts ih => rw [writtenItems, ih, List.map_cons]

theorem writtenPairs_eq_map (pairs : Pairs) :
    writtenPairs pairs = pairs.map fun p => (.text p.1.name, p.2.written) := by
  induction pairs with
  | nil => rw [writtenPairs, List.map_nil]
  | cons p ps ih => rw [writtenPairs, ih, List.map_cons]

/-- A step of creating, and what follows it. -/
theorem creating_bind {α β : Type} {x : Creating α} {f : α → Creating β} {s s' : Session} {a : α}
    (h : x s = (a, s')) : (x >>= f) s = f a s' := by
  change f (x s).1 (x s).2 = _
  rw [h]

theorem itemsOfJson_written {items : List Term} {s : Session}
    (h : ∀ t ∈ items, ofJson t.toJson s = (t.written, s)) :
    itemsOfJson (itemsToJson items) s = (writtenItems items, s) := by
  induction items with
  | nil => rfl
  | cons t ts ih =>
    obtain ⟨first, others⟩ := List.forall_mem_cons.1 h
    rw [itemsToJson, itemsOfJson, creating_bind first, creating_bind (ih others), writtenItems]
    rfl

theorem pairsOfJson_written {pairs : Pairs} {s : Session}
    (h : ∀ p ∈ pairs, ofJson p.2.toJson s = (p.2.written, s)) :
    pairsOfJson (pairsToJson pairs) s = (writtenPairs pairs, s) := by
  induction pairs with
  | nil => rfl
  | cons p ps ih =>
    obtain ⟨first, others⟩ := List.forall_mem_cons.1 h
    rw [pairsToJson, pairsOfJson, creating_bind first, creating_bind (ih others), writtenPairs]
    rfl

theorem keys_pairsToJson (pairs : Pairs) :
    (pairsToJson pairs).map (·.1) = pairs.map (·.1.name) := by
  induction pairs with
  | nil => rfl
  | cons p ps ih => rw [pairsToJson, List.map_cons, List.map_cons, ih]

theorem ofInteger_of_toInt? {i : Int} {j : Int64} (h : j.toInt = i) : ofInteger i = .integer j := by
  rw [ofInteger, toInt64?_eq_some_iff.2 h]

theorem toInt_ofNat_byte (b : UInt8) : (Int64.ofNat b.toNat).toInt = b.toNat := by
  have small : b.toNat < 256 := b.toNat_lt
  apply Int64.toInt_ofNat_of_lt
  omega

/-- Bytes as an array of numbers. -/
theorem itemsOfJson_bytes (bytes : List UInt8) (s : Session) :
    itemsOfJson (bytes.map fun b => .integer b.toNat) s
      = (bytes.map fun b => .integer (Int64.ofNat b.toNat), s) := by
  induction bytes with
  | nil => rfl
  | cons b bs ih =>
    have first : ofJson (.integer b.toNat) s = (.integer (Int64.ofNat b.toNat), s) := by
      rw [ofJson, ofInteger_of_toInt? (toInt_ofNat_byte b)]
      rfl
    rw [List.map_cons, itemsOfJson, creating_bind first, creating_bind ih]
    rfl

/-- **A faithful term comes back as written, and nothing is created.** -/
theorem ofJson_toJson {t : Term} (h : t.Every Faithful) (s : Session) :
    ofJson t.toJson s = (t.written, s) := by
  induction t using Term.induct with
  | plain t tuple map list =>
    cases t with
    | integer i =>
      rw [toJson, ofJson, ofInteger_of_toInt? rfl, written]
      rfl
    | float x =>
      have finite : x.isFinite = true := h.here
      rw [toJson, if_pos finite]
      rfl
    | binary bytes =>
      rw [toJson, written]
      cases Text.Utf8.decode bytes with
      | some cs => rfl
      | none =>
        dsimp only
        rw [ofJson, creating_bind (itemsOfJson_bytes bytes s)]
        rfl
    | list => exact absurd rfl list
    | tuple => exact absurd rfl tuple
    | map => exact absurd rfl map
    | _ => rfl
  | tuple items ih =>
    have each (t : Term) (ht : t ∈ items) := ih t ht (h.part ht)
    rw [toJson, ofJson, creating_bind (itemsOfJson_written each), written]
    rfl
  | list items ih =>
    have each (t : Term) (ht : t ∈ items) := ih t ht (h.item ht)
    rw [toJson, ofJson, creating_bind (itemsOfJson_written each), written]
    rfl
  | map pairs ih =>
    have each (p : Key × Term) (hp : p ∈ pairs) := ih p hp (h.value hp)
    -- Of two pairs of one name the object would hold one.
    have distinct : ((pairsToJson pairs).map (·.1)).Nodup := by
      rw [keys_pairsToJson]
      exact h.here
    rw [toJson, Json.gather_of_nodup distinct, ofJson, creating_bind (pairsOfJson_written each), written]
    rfl

/-! ## Keys as texts -/

mutual

/-- The term with every key of its maps as a text. -/
def textKeys : Term → Term
  | .list items => .list (textKeysOfItems items)
  | .tuple items => .tuple (textKeysOfItems items)
  | .map pairs => .map (textKeysOfPairs pairs)
  | t => t

def textKeysOfItems : List Term → List Term
  | [] => []
  | t :: ts => t.textKeys :: textKeysOfItems ts

/-- Pairs with their keys as texts, also within their values. -/
def textKeysOfPairs : List (Key × Term) → List (Key × Term)
  | [] => []
  | (k, t) :: ps => (.text k.name, t.textKeys) :: textKeysOfPairs ps

end

theorem textKeysOfItems_eq_map (items : List Term) : textKeysOfItems items = items.map textKeys := by
  induction items with
  | nil => rw [textKeysOfItems, List.map_nil]
  | cons t ts ih => rw [textKeysOfItems, ih, List.map_cons]

theorem textKeysOfPairs_eq_map (pairs : Pairs) :
    textKeysOfPairs pairs = pairs.map fun p => (.text p.1.name, p.2.textKeys) := by
  induction pairs with
  | nil => rw [textKeysOfPairs, List.map_nil]
  | cons p ps ih => rw [textKeysOfPairs, ih, List.map_cons]

/-! ## Lists that read as text -/

/-- A term and what it comes back as are the same character, if any. -/
theorem charOf?_written (t : Term) : charOf? t.written = charOf? t := by
  cases t with
  | binary bytes =>
    rw [written]
    split <;> rfl
  | _ => rfl

/-- Whether a list reads as text stays the same. -/
theorem isCharList_written (items : List Term) :
    isCharList (items.map written) = isCharList items := by
  simp only [isCharList, List.isEmpty_map, List.all_map, Function.comp_def, charOf?_written]

end Term

end Conform
