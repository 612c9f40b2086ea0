import Conform.Json.Record
import Conform.Options.Basic
import Conform.Yaml.Record

/-!
# Options in documents

The options of a parse, and those of loading a document: where its values are stored and how it is
parsed. Both are records in which every field may be left out.

This is what `ParseOptions` and `LoaderOptions` derive for `Deserialize`.
-/

namespace Conform

/-- The document formats: `Format`. -/
inductive Format where
  | json
  | yaml
deriving DecidableEq

/-- Where the values of a document are stored, and how it is parsed: `LoaderOptions`. -/
structure LoadOptions where
  owner : String
  scope : String
  parse : Options

/-- The options where nothing is said. -/
def LoadOptions.default : LoadOptions := ⟨"termcheck", "global", .default⟩

instance : Inhabited LoadOptions := ⟨.default⟩

def Options.ofRecord? {α : Type} (r : Records α) (a : α) : Option Options := do
  let fields ← r.fields? ["path", "warn_unknown"] a
  let path ← Records.field? "path" r.text? default.path fields
  let warnUnknown ← Records.field? "warn_unknown" r.flag? default.warnUnknown fields
  return ⟨path, warnUnknown⟩

def LoadOptions.ofRecord? {α : Type} (r : Records α) (a : α) : Option LoadOptions := do
  let fields ← r.fields? ["owner", "scope", "parse"] a
  let owner ← Records.field? "owner" r.text? default.owner fields
  let scope ← Records.field? "scope" r.text? default.scope fields
  let parse ← Records.field? "parse" (Options.ofRecord? r) default.parse fields
  return ⟨owner, scope, parse⟩

/-- The record that a text holds, given how to read it from either kind of document. A text without
a document holds an empty record. -/
def Format.readRecord? {β : Type} (read : {α : Type} → Records α → α → Option β)
    (text : String) : Format → Option β
  | .json => (Json.Raw.read? text.toList).bind (read Json.records)
  | .yaml => do
    match ← Yaml.Document.ofText? text.toList with
    | some d => read (Yaml.records d.targets) d.root
    | none => read (Yaml.records []) Yaml.Node.empty

/-- The options of a parse that a text holds. -/
def Options.ofText? (format : Format) (text : String) : Option Options :=
  format.readRecord? Options.ofRecord? text

def LoadOptions.ofText? (format : Format) (text : String) : Option LoadOptions :=
  format.readRecord? LoadOptions.ofRecord? text

end Conform
