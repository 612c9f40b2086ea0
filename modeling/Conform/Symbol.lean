/-!
# Symbols

A symbol is a name that has been interned. The table of interned names only grows, and it grows in
one way, by `intern`; looking a name up leaves it alone. A text that comes from outside is turned
into a symbol by `existing?` only, so an unknown name finds none.

These are the table of `Symbol`, `Symbol::intern` and `Symbol::existing`.
-/

namespace Conform

/-- An interned name: `Symbol`. -/
structure Symbol where
  name : String
deriving DecidableEq

/-- Symbols are ordered by name. -/
instance : Ord Symbol where
  compare a b := compare a.name b.name

/-- The names interned so far. -/
structure SymbolTable where
  symbols : List Symbol
deriving DecidableEq

namespace SymbolTable

def empty : SymbolTable := ⟨[]⟩

instance : Inhabited SymbolTable := ⟨empty⟩

/-- The symbol of a name, if it has been interned (`Symbol::existing`). -/
def existing? (t : SymbolTable) (name : String) : Option Symbol :=
  if (⟨name⟩ : Symbol) ∈ t.symbols then some ⟨name⟩ else none

/-- The table with a name in it (`Symbol::intern`). -/
def intern (t : SymbolTable) (name : String) : SymbolTable :=
  if (⟨name⟩ : Symbol) ∈ t.symbols then t else ⟨⟨name⟩ :: t.symbols⟩

def internAll (t : SymbolTable) (names : List String) : SymbolTable :=
  names.foldl intern t

/-- The symbol of a name exists iff it was interned. -/
theorem existing?_eq_some_iff {t : SymbolTable} {name : String} {s : Symbol} :
    t.existing? name = some s ↔ s = ⟨name⟩ ∧ s ∈ t.symbols := by
  simp only [existing?]
  split <;> rename_i h
  · constructor
    · intro e; cases e; exact ⟨rfl, h⟩
    · rintro ⟨rfl, _⟩; rfl
  · constructor
    · intro e; cases e
    · rintro ⟨rfl, h'⟩; exact absurd h' h

/-- Interning adds one symbol at most. -/
theorem mem_intern {t : SymbolTable} {name : String} {s : Symbol} :
    s ∈ (t.intern name).symbols ↔ s = ⟨name⟩ ∨ s ∈ t.symbols := by
  simp only [intern]
  split <;> rename_i h
  · constructor
    · exact .inr
    · rintro (rfl | h') <;> assumption
  · simp

end SymbolTable

end Conform
