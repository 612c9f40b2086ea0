import Conform.Level.Parse
import Conform.Options.Record
import Conform.Store.Basic
import Conform.Term.Yaml
import Conform.Yaml.Reading

/-!
# Loading documents

A document is decoded into a term, the term is taken through a schema, and the accepted pairs of the
top level are stored. Nothing is stored before the whole document has been accepted, so a document
with any fault leaves the store as it was.

These are `decode`, `load_document`, `load_str` and `load_file`.
-/

namespace Conform

open Conform.Text

/-! ## Formats -/

/-- The last part of a path that names a file. -/
def fileName? (path : List Char) : Option (List Char) :=
  let parts := (pieces '/' path).filter fun p => !p.isEmpty && p != ['.']
  parts.getLast?.filter (· != ['.', '.'])

/-- What stands behind the last point of a file's name, unless that point comes first. -/
def extension? (name : List Char) : Option (List Char) :=
  match cut '.' name.reverse with
  | some (behind, before) => if before.isEmpty then none else some behind.reverse
  | none => none

/-- The format that the extension of a path tells (`Format::from_path`); YAML where it tells none. -/
def Format.ofPath (path : String) : Format :=
  let extension := (fileName? path.toList).bind extension?
  if extension.map (·.map lowerAscii) = some "json".toList then .json else .yaml

/-! ## Decoding -/

/-- Why a text cannot be decoded: `DecodeError`. -/
inductive DecodeFault where
  /-- It is not JSON. -/
  | json
  /-- It is not YAML. -/
  | yaml
  /-- It is YAML, but its value is no term. -/
  | conversion (fault : KeyFault)

def DecodeFault.message : DecodeFault → String
  | .json => "invalid JSON"
  | .yaml => "invalid YAML"
  | .conversion fault => "YAML conversion failed: " ++ fault.message

/-- The term that a text holds (`decode`). -/
def Format.decode (text : String) : Format → ExceptT DecodeFault Creating Term
  | .json =>
    match Json.read? text with
    | some j => ExceptT.lift (Term.ofJson j)
    | none => throw .json
  | .yaml =>
    match Yaml.read? text with
    | some y => ExceptT.adapt .conversion (Term.ofYaml y)
    | none => throw .yaml

/-! ## Loading -/

/-- Why a document cannot be loaded: `LoadError`. -/
inductive LoadFault where
  /-- The file cannot be read. -/
  | unreadable (file : String)
  | malformed (file : String) (fault : DecodeFault)
  | invalid (file : String) (error : ParseError)

def LoadFault.message : LoadFault → String
  | .unreadable file => "cannot read '" ++ file ++ "'"
  | .malformed file fault => "cannot decode '" ++ file ++ "': " ++ fault.message
  | .invalid file error => "invalid configuration in '" ++ file ++ "': " ++ error.message

/-- What loading leaves behind. -/
structure Loaded where
  result : Except LoadFault Output
  store : Store
  journal : Journal

/-- Stores a value, which is logged. -/
def Store.record (s : Store) (a : Slot) (value : Term) (j : Journal) : Store × Journal :=
  (s.put a value, j.log (.stored a value.kind))

/-- The last step of `load_document`: stores pairs one after another under the names of their keys. -/
def Store.publish (owner scope : String) : Pairs → Store × Journal → Store × Journal
  | [], world => world
  | (k, v) :: pairs, (s, j) => publish owner scope pairs (s.record ⟨owner, scope, k.name⟩ v j)

/-- Loads the text of a document that comes from a file (`load_document`). -/
def load (file : String) (format : Format) (text : String) (schema : Schema)
    (options : LoadOptions) (s : Store) (j : Journal) : Loaded :=
  match (format.decode text).run j.session with
  | (.error fault, session) => ⟨.error (.malformed file fault), s, { j with session := session }⟩
  | (.ok term, session) =>
    match (schema.parse options.parse term).run { j with session := session } with
    | (.error e, j) => ⟨.error (.invalid file e), s, j⟩
    | (.ok output, j) =>
      let (s, j) := Store.publish options.owner options.scope output.accepted (s, j)
      ⟨.ok output, s, j.log (.loaded file options.owner options.scope output.accepted.length
        output.unknown.length)⟩

/-- The name that stands for the file of a text that comes from none. -/
def memoryName : String := "<memory>"

/-- Loads a text that comes from no file (`load_str`). -/
def loadText (format : Format) (text : String) (schema : Schema) (options : LoadOptions)
    (s : Store) (j : Journal) : Loaded :=
  load memoryName format text schema options s j

/-- Loads a file, given its bytes if it can be read (`load_file`). They have to be UTF-8. -/
def loadFile (file : String) (bytes : Option (List UInt8)) (schema : Schema)
    (options : LoadOptions) (s : Store) (j : Journal) : Loaded :=
  let j := j.log (.loading file)
  match bytes.bind Utf8.decode with
  | none => ⟨.error (.unreadable file), s, j⟩
  | some cs => load file (.ofPath file) (String.ofList cs) schema options s j

end Conform
