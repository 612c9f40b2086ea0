import Conform.Proofs.Level.Steady

/-!
# What a level comes to

A level of steady dispatchers can be settled without its state: each field contributes what it comes
to when it is dispatched alone, the contributions are put one behind the other, and only the names
among them decide which defaults are left. `settle` does that on pairs. The run through the level
follows it, step by step: `Follows` relates a result on pairs to a result on levels, and sequencing
keeps it.

`gather_follows`, `fill_follows` and `demand_follows` are its three parts.
-/

namespace Conform

/-- The pairs that a dispatched field contributes to its level. -/
def Found.pairs : Found → Pairs
  | .accept key value _ _ => [(key, value)]
  | .drop => []
  | .replaceAll pairs => pairs

/-- Whether a key of this name is among the pairs. -/
def named (pairs : Pairs) (key : Key) : Bool :=
  pairs.any fun p => p.1.sameName key

theorem named_iff {pairs : Pairs} {key : Key} :
    named pairs key = true ↔ ∃ p ∈ pairs, p.1.name = key.name := by
  simp [named, Key.sameName]

theorem named_append (as bs : Pairs) (key : Key) :
    named (as ++ bs) key = (named as key || named bs key) := by
  simp [named]

/-! ## Settling on pairs -/

namespace Account

variable (step : Key × Term → Except ParseError Pairs)

/-- Puts what each pair contributes behind what was taken. -/
def gather (taken : Pairs) : Pairs → Except ParseError Pairs
  | [] => .ok taken
  | p :: ps => do
    let new ← step p
    gather (taken ++ new) ps

/-- The same for those pairs whose names have not been taken by then. -/
def fill (taken : Pairs) : Pairs → Except ParseError Pairs
  | [] => .ok taken
  | d :: ds =>
    if named taken d.1 then fill taken ds
    else do
      let new ← step d
      fill (taken ++ new) ds

/-- Fails with the first key whose name has not been taken. -/
def demand (path : Path) (keys : List Key) (taken : Pairs) : Except ParseError Pairs :=
  match keys.find? fun k => !named taken k with
  | some k => .error (.missing (path.child k))
  | none => .ok taken

/-- The pairs, then the defaults, then the keys that must be there. -/
def settle (path : Path) (defaults : Pairs) (mandatory : List Key) (pairs : Pairs) :
    Except ParseError Pairs := do
  let taken ← gather step [] pairs
  let taken ← fill step taken defaults
  demand path mandatory taken

end Account

/-! ## The run follows -/

namespace Level

/-- What a pair contributes when it is dispatched with nothing else in sight. -/
def alone (table : List (Key × Dispatch)) (l : Level) (j : Journal) (pair : Key × Term) :
    Except ParseError Pairs :=
  match valueFor? j.session.symbols table pair.1 with
  | none => .ok []
  | some d => (d pair.1 pair.2 l j).1.map Found.pairs

variable {table : List (Key × Dispatch)}

/-- What one pair gives alone depends on the place of the level and the session, and a run changes
neither. -/
theorem alone_congr (h : SteadyTable table) {l l' : Level} {j j' : Journal} (place : l.SamePlace l')
    (session : j'.session = j.session) : alone table l' j' = alone table l j := by
  funext pair
  unfold alone
  rw [session]
  split
  · rfl
  · rename_i d hd
    rw [← (h.found hd).place _ _ _ _ place, ((h.found hd).quiet pair.1 pair.2 l).answer j' j session]

/-- A run of a level gives these accepted pairs, at the same place and with the same session, or
this error. -/
inductive Follows (l : Level) (j : Journal) :
    Except ParseError Pairs → Except ParseError Level × Journal → Prop where
  | ok {l' : Level} {j' : Journal} (place : l.SamePlace l') (session : j'.session = j.session) :
    Follows l j (.ok l'.accepted) (.ok l', j')
  | error {e : ParseError} {j' : Journal} (session : j'.session = j.session) :
    Follows l j (.error e) (.error e, j')

theorem Follows.from {l l' : Level} {j j' : Journal} {r : Except ParseError Pairs}
    {x : Except ParseError Level × Journal} (h : Follows l' j' r x) (place : l.SamePlace l')
    (session : j'.session = j.session) : Follows l j r x := by
  cases h with
  | ok place' session' =>
    exact .ok ⟨place.1.trans place'.1, place.2.trans place'.2⟩ (session'.trans session)
  | error session' => exact .error (session'.trans session)

/-- Runs that follow a settlement go on following it: the second part starts at the same place in
the same session. -/
theorem Follows.bind {l : Level} {j : Journal} {r : Except ParseError Pairs} {x : Run Level}
    {f : Pairs → Except ParseError Pairs} {g : Level → Run Level} (h : Follows l j r (x j))
    (next : ∀ l' j', l.SamePlace l' → j'.session = j.session →
      Follows l' j' (f l'.accepted) (g l' j')) :
    Follows l j (r >>= f) ((x >>= g) j) := by
  rw [Run.bind_apply]
  generalize x j = y at h
  cases h with
  | ok place session => exact (next _ _ place session).from place session
  | error session => exact .error session

theorem Follows.result {l : Level} {j : Journal} {r : Except ParseError Pairs}
    {x : Except ParseError Level × Journal} (h : Follows l j r x) : x.1.map accepted = r := by
  cases h <;> rfl

theorem samePlace_take (l : Level) (found : Found) : l.SamePlace (l.take found) := by
  cases found <;> exact ⟨rfl, rfl⟩

/-- One step: a pair adds what it contributes alone. -/
theorem process_follows (h : SteadyTable table) (l : Level) (pair : Key × Term) (j : Journal) :
    Follows l j ((alone table l j pair).map (l.accepted ++ ·)) (l.process table pair j) := by
  have session := (quiet_process h l pair).session j
  unfold alone
  cases hd : valueFor? j.session.symbols table pair.1 with
  | none =>
    rw [process_of_none hd] at session ⊢
    have place : l.SamePlace { l with unknown := l.unknown ++ [l.path.child pair.1] } := ⟨rfl, rfl⟩
    have noted := Follows.ok place session
    simpa [note, Except.map] using noted
  | some d =>
    have keeps := (h.found hd).keeps pair.1 pair.2 l j
    rw [process_of_some hd, Run.bind_apply] at session ⊢
    dsimp only
    rcases hr : d pair.1 pair.2 l j with ⟨e | found, j'⟩ <;> rw [hr] at session keeps
    · exact .error session
    · have taken : (l.take found).accepted = l.accepted ++ found.pairs := by
        cases keeps found rfl with
        | accept => rfl
        | drop => exact (List.append_nil _).symm
      have found := Follows.ok (l := l) (j := j) (samePlace_take l found) session
      rw [taken] at found
      exact found

/-- The pairs of the input, by induction: each step of the level follows the step of the account. -/
theorem gather_follows (h : SteadyTable table) (pairs : Pairs) (l : Level) (j : Journal) :
    Follows l j (Account.gather (alone table l j) l.accepted pairs)
      (pairs.foldlM (process table) l j) := by
  induction pairs generalizing l j with
  | nil => exact .ok ⟨rfl, rfl⟩ rfl
  | cons p ps ih =>
    have split : Account.gather (alone table l j) l.accepted (p :: ps)
        = (alone table l j p).map (l.accepted ++ ·)
          >>= fun taken => Account.gather (alone table l j) taken ps := by
      rw [Account.gather]
      cases alone table l j p <;> rfl
    rw [split, List.foldlM_cons]
    apply (process_follows h l p j).bind
    intro l' j' place session
    rw [← alone_congr h place session]
    exact ih l' j'

theorem fill_follows (h : SteadyTable table) (defaults : Pairs) (l : Level) (j : Journal) :
    Follows l j (Account.fill (alone table l j) l.accepted defaults)
      (defaults.foldlM (processDefault table) l j) := by
  induction defaults generalizing l j with
  | nil => exact .ok ⟨rfl, rfl⟩ rfl
  | cons d ds ih =>
    rw [List.foldlM_cons, Account.fill]
    by_cases hd : named l.accepted d.1 = true
    · have skip : l.processDefault table d = pure l := if_pos hd
      rw [if_pos hd, skip, pure_bind]
      exact ih l j
    · have take : l.processDefault table d = l.process table d := if_neg hd
      have split : (alone table l j d >>= fun new =>
          Account.fill (alone table l j) (l.accepted ++ new) ds)
          = (alone table l j d).map (l.accepted ++ ·)
            >>= fun taken => Account.fill (alone table l j) taken ds := by
        cases alone table l j d <;> rfl
      rw [if_neg hd, take, split]
      apply (process_follows h l d j).bind
      intro l' j' place session
      rw [← alone_congr h place session]
      exact ih l' j'

theorem demand_follows (l : Level) (keys : List Key) (j : Journal) :
    Follows l j (Account.demand l.path keys l.accepted) (l.demand keys j) := by
  unfold Account.demand demand
  change Follows l j (match keys.find? (fun k => !l.has k) with
    | some k => .error (.missing (l.path.child k))
    | none => .ok l.accepted) _
  cases keys.find? fun k => !l.has k with
  | some k => exact .error rfl
  | none => exact .ok ⟨rfl, rfl⟩ rfl

/-- The whole run: from a level at its start, the accepted pairs are what is settled on pairs. -/
theorem run_follows (h : SteadyTable table) (defaults : Pairs) (mandatory : List Key) (applied : Bool)
    (pairs : Pairs) (l : Level) (start : l.accepted = []) (j : Journal) :
    Follows l j
      (Account.settle (alone table l j) l.path (if applied then defaults else []) mandatory pairs)
      (run table defaults mandatory applied pairs l j) := by
  have first := gather_follows h pairs l j
  rw [start] at first
  apply first.bind
  intro l₁ j₁ place₁ session₁
  rw [← alone_congr h place₁ session₁]
  apply (fill_follows h _ l₁ j₁).bind
  intro l₂ j₂ place₂ session₂
  rw [place₁.1, place₂.1]
  exact demand_follows l₂ mandatory j₂

end Level

end Conform
