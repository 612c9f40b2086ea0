/-!
# Options

What a caller may say about a call besides the schema and the input.
-/

namespace Conform

/-- How a call treats its input: `ParseOptions`. -/
structure Options where
  /-- Put in front of every path. -/
  path : String
  /-- Whether a key without a rule is logged. -/
  warnUnknown : Bool
deriving DecidableEq

/-- No base path, no warnings. -/
def Options.default : Options := ⟨"", false⟩

instance : Inhabited Options := ⟨.default⟩

end Conform
