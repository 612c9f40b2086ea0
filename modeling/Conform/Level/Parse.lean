import Conform.Level.Dispatch

/-!
# Parsing

Taking a whole input through a schema. The input is a map or a list of pairs; the result holds the
accepted pairs, the same at every level by their dotted paths, and the paths of the keys that no
rule takes.

This is `parse_with`, whose result is a `ParseOutput`.
-/

namespace Conform

/-- What a successful call gives: `ParseOutput`. -/
structure Output where
  /-- The accepted pairs, in the order in which they were dispatched. -/
  accepted : Pairs
  /-- The accepted pairs of all levels, by their paths. -/
  flattened : List (Path × Term)
  /-- The paths of the keys without a rule, in the order in which they were met. -/
  unknown : List Path

namespace Output

/-- The first accepted value under a key of this name (`ParseOutput::get`). -/
def get? (o : Output) (name : String) : Option Term :=
  Term.lookup o.accepted name

def toTerm (o : Output) : Term :=
  .map o.accepted

end Output

def Level.output (l : Level) : Output :=
  ⟨l.accepted, l.flattened, l.unknown⟩

/-- Takes an input through a schema (`parse_with`). The defaults of the top are applied also when it
is empty. -/
def Schema.parse (s : Schema) (options : Options) (input : Term) : Run Output := do
  let path : Path := ⟨options.path⟩
  match input.pairs? with
  | none => throw (.invalid path (.notPairs input.kind))
  | some pairs =>
    let level ← Level.run (Rule.dispatchFields s.fields) s.defaults s.mandatoryKeys true pairs
      (.start path options)
    return level.output

end Conform
