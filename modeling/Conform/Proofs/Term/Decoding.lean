import Conform.Proofs.Json.Members
import Conform.Proofs.Run
import Conform.Proofs.Schema.Built
import Conform.Term.Yaml

/-!
# Terms from documents

A value of a document is made into a term from left to right. A null becomes a symbol, which is
created if there was none of its name; nothing else in a document creates anything. Making a term of
a YAML value ends at the first key that stands for no text, so the nulls behind it are not met. The
pairs of a JSON object bear distinct names.

`Passage` tells both from the value alone, and `passage_ofYaml` is the induction.
-/

namespace Conform

/-! ## What is created on the way -/

/-- Interning a name that exists changes nothing. -/
theorem SymbolTable.intern_of_mem {t : SymbolTable} {name : String}
    (h : (⟨name⟩ : Symbol) ∈ t.symbols) : t.intern name = t :=
  if_pos h

theorem SymbolTable.intern_intern (t : SymbolTable) (name : String) :
    (t.intern name).intern name = t.intern name :=
  intern_of_mem (mem_intern.2 (.inl rfl))

/-- What has been created when a null has been met, or when none has. -/
def Session.met (s : Session) (null : Bool) : Session :=
  if null then { s with symbols := s.symbols.intern "null" } else s

theorem Session.met_met (s : Session) (a b : Bool) : (s.met a).met b = s.met (a || b) := by
  cases a <;> cases b
  case true.true => simp only [met, Bool.or_true, if_true, SymbolTable.intern_intern]
  all_goals rfl

/-- A way through a value: whether a null is met on it, and whether it leads to the end. -/
structure Passage where
  null : Bool
  ends : Bool

namespace Passage

/-- The way through a value that holds neither nulls nor faults. -/
def clear : Passage := ⟨false, true⟩

/-- One way and then another, which is only entered at the end of the first. -/
def andThen (a b : Passage) : Passage :=
  ⟨a.null || a.ends && b.null, a.ends && b.ends⟩

/-- A conversion goes this way, whatever has been created before. -/
structure Of {ε α : Type} (p : Passage) (x : ExceptT ε Creating α) : Prop where
  session : ∀ s, (x s).2 = s.met p.null
  ends : ∀ s, (x s).1.isOk = p.ends

namespace Of

variable {ε α β : Type} {p q : Passage}

theorem pure (a : α) : clear.Of (Pure.pure a : ExceptT ε Creating α) :=
  ⟨fun _ => rfl, fun _ => rfl⟩

theorem throw (e : ε) : Of ⟨false, false⟩ (MonadExcept.throw e : ExceptT ε Creating α) :=
  ⟨fun _ => rfl, fun _ => rfl⟩

/-- Passages compose: a null is met in the whole if it is in a part that runs, and the first failure
ends it. -/
theorem bind {x : ExceptT ε Creating α} {f : α → ExceptT ε Creating β} (hx : p.Of x)
    (hf : ∀ a, q.Of (f a)) : (p.andThen q).Of (x >>= f) := by
  have step (s : Session) : ((x >>= f) s).2 = s.met (p.null || p.ends && q.null) ∧
      ((x >>= f) s).1.isOk = (p.ends && q.ends) := by
    have met := hx.session s
    have ends := hx.ends s
    rw [Run.bind_apply]
    rcases h : x s with ⟨e | a, s'⟩ <;> rw [h] at met ends <;> dsimp only at met ⊢ <;> rw [← ends]
    · exact ⟨by simpa [Except.isOk, Except.toBool] using met, rfl⟩
    · rw [met, (hf a).session, (hf a).ends, Session.met_met]
      exact ⟨rfl, rfl⟩
  exact ⟨fun s => (step s).1, fun s => (step s).2⟩

/-- Going on without a fault adds nothing to the way. -/
theorem map {x : ExceptT ε Creating α} (hx : p.Of x) (f : α → β) :
    p.Of (x >>= fun a => Pure.pure (f a)) := by
  have way := hx.bind fun a => .pure (f a)
  cases p
  simpa [andThen, clear] using way

theorem lift {x : Creating α} {null : Bool} (h : ∀ s, (x s).2 = s.met null) :
    Of ⟨null, true⟩ (ExceptT.lift x : ExceptT ε Creating α) :=
  ⟨h, fun _ => rfl⟩

/-- Rewording a failure leaves the passage as it was. -/
theorem adapt {ε' : Type} {x : ExceptT ε Creating α} (h : p.Of x) (f : ε → ε') :
    p.Of (ExceptT.adapt f x) := by
  have same (s : Session) : ExceptT.adapt f x s = ((x s).1.mapError f, (x s).2) := rfl
  constructor
  · intro s
    rw [same]
    exact h.session s
  · intro s
    rw [same, ← h.ends s]
    cases (x s).1 <;> rfl

end Of

end Passage

/-! ## Nulls in values -/

namespace Json

mutual

def hasNull : Json → Bool
  | .null => true
  | .array items => itemsHaveNull items
  | .object members => membersHaveNull members
  | _ => false

def itemsHaveNull : List Json → Bool
  | [] => false
  | j :: js => hasNull j || itemsHaveNull js

def membersHaveNull : List (String × Json) → Bool
  | [] => false
  | (_, j) :: ms => hasNull j || membersHaveNull ms

end

end Json

namespace Yaml

mutual

/-- The way through a value. -/
def passage : Yaml → Passage
  | .null => ⟨true, true⟩
  | .sequence items => itemsPassage items
  | .mapping pairs => pairsPassage pairs
  | .tagged _ value => passage value
  | _ => .clear

def itemsPassage : List Yaml → Passage
  | [] => .clear
  | v :: vs => (passage v).andThen (itemsPassage vs)

/-- The way through the pairs of a mapping; it leads to a key before its value. -/
def pairsPassage : List (Yaml × Yaml) → Passage
  | [] => .clear
  | (k, v) :: ps =>
    Passage.andThen ⟨false, (Term.keyOfYaml k).isOk⟩ ((passage v).andThen (pairsPassage ps))

end

end Yaml

namespace Term

/-! ## JSON -/

mutual

/-- Decoding a JSON value creates the symbol `null` iff there is a null in it, and no other. -/
theorem session_ofJson (j : Json) (s : Session) : (ofJson j s).2 = s.met j.hasNull := by
  cases j with
  | array items => rw [ofJson, Json.hasNull]; exact session_itemsOfJson items s
  | object members => rw [ofJson, Json.hasNull]; exact session_pairsOfJson members s
  | null | boolean | integer | float | string => rfl

theorem session_itemsOfJson (js : List Json) (s : Session) :
    (itemsOfJson js s).2 = s.met (Json.itemsHaveNull js) := by
  cases js with
  | nil => rfl
  | cons j js =>
    rw [itemsOfJson, Json.itemsHaveNull, ← Session.met_met, ← session_ofJson j s]
    exact session_itemsOfJson js (ofJson j s).2

theorem session_pairsOfJson (ms : List (String × Json)) (s : Session) :
    (pairsOfJson ms s).2 = s.met (Json.membersHaveNull ms) := by
  cases ms with
  | nil => rfl
  | cons m ms =>
    rw [pairsOfJson, Json.membersHaveNull, ← Session.met_met, ← session_ofJson m.2 s]
    exact session_pairsOfJson ms (ofJson m.2 s).2

end

/-- The names of members become text keys, in their order. -/
theorem keys_pairsOfJson (ms : List (String × Json)) (s : Session) :
    (pairsOfJson ms s).1.map (·.1) = ms.map fun m => Key.text m.1 := by
  induction ms generalizing s with
  | nil => rfl
  | cons m ms ih =>
    rw [pairsOfJson]
    exact congrArg (Key.text m.1 :: ·) (ih (ofJson m.2 s).2)

/-- A JSON value never becomes a tuple, so it is no pair. -/
theorem pairOf?_ofJson (j : Json) (s : Session) : pairOf? (ofJson j s).1 = none := by
  cases j with
  | integer i =>
    show pairOf? (ofInteger i) = none
    unfold ofInteger
    split <;> rfl
  | null | boolean | float | string | array | object => rfl

/-- No decoded item is a tuple, so a JSON array is never taken for pairs. -/
theorem pairOf?_of_mem_itemsOfJson {js : List Json} {s : Session} :
    ∀ t ∈ (itemsOfJson js s).1, pairOf? t = none := by
  induction js generalizing s with
  | nil => exact List.forall_mem_nil _
  | cons j js ih =>
    rw [itemsOfJson]
    exact List.forall_mem_cons.2 ⟨pairOf?_ofJson j s, ih⟩

/-- The pairs that a JSON document stands for bear distinct names. -/
theorem distinctNames_of_json {text : String} {j : Json} (read : Json.read? text = some j)
    {s : Session} {pairs : Pairs} (h : (ofJson j s).1.pairs? = some pairs) :
    DistinctNames pairs := by
  cases j with
  | object members =>
    cases h
    have keys := Json.nodup_of_read? read
    have names : (pairsOfJson members s).1.map (·.1.name) = members.map (·.1) := by
      have same := congrArg (List.map Key.name) (keys_pairsOfJson members s)
      simpa only [List.map_map, Function.comp_def, Key.name] using same
    rwa [← names] at keys
  | array items =>
    replace h : (itemsOfJson items s).1.mapM pairOf? = some pairs := h
    cases given : (itemsOfJson items s).1 with
    | nil =>
      rw [given] at h
      cases h
      exact List.nodup_nil
    | cons t ts =>
      have none := pairOf?_of_mem_itemsOfJson t (given ▸ List.mem_cons_self)
      rw [given, List.mapM_cons, none] at h
      cases h
  | integer i =>
    replace h : (ofInteger i).pairs? = some pairs := h
    unfold ofInteger at h
    split at h <;> cases h
  | null | boolean | float | string => cases h

/-! ## YAML -/

/-- A mapping key passes iff it has a name, and creates nothing. -/
theorem passage_keyOfYaml (k : Yaml) : Passage.Of ⟨false, (keyOfYaml k).isOk⟩
    (keyOfYaml k : ExceptT KeyFault Creating String) := by
  cases keyOfYaml k with
  | ok name => exact .pure name
  | error fault => exact .throw fault

mutual

/-- Decoding a YAML value passes as `Yaml.passage` tells from the value alone, by induction with its
two companions. -/
theorem passage_ofYaml (v : Yaml) : v.passage.Of (ofYaml v) := by
  cases v with
  | sequence items => rw [ofYaml, Yaml.passage]; exact (passage_itemsOfYaml items).map Term.list
  | mapping pairs => rw [ofYaml, Yaml.passage]; exact (passage_pairsOfYaml pairs).map Term.map
  | tagged tag value => rw [ofYaml, Yaml.passage]; exact passage_ofYaml value
  | null => exact ⟨fun _ => rfl, fun _ => rfl⟩
  | boolean | integer | float | string => exact .pure _

theorem passage_itemsOfYaml (vs : List Yaml) : (Yaml.itemsPassage vs).Of (itemsOfYaml vs) := by
  cases vs with
  | nil => exact .pure []
  | cons v vs =>
    rw [itemsOfYaml, Yaml.itemsPassage]
    exact (passage_ofYaml v).bind fun t => (passage_itemsOfYaml vs).map (t :: ·)

theorem passage_pairsOfYaml (ps : List (Yaml × Yaml)) :
    (Yaml.pairsPassage ps).Of (pairsOfYaml ps) := by
  cases ps with
  | nil => exact .pure []
  | cons p ps =>
    rw [pairsOfYaml, Yaml.pairsPassage]
    exact (passage_keyOfYaml p.1).bind fun key => (passage_ofYaml p.2).bind fun t =>
      (passage_pairsOfYaml ps).map ((.text key, t) :: ·)

end

end Term

end Conform
