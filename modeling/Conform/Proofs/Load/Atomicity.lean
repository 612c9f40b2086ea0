import Conform.Proofs.Store.Publication

/-!
# Loading is all or nothing

Loading decodes a text, takes the term through a schema and publishes what was accepted. It ends at
the first of these steps that fails, and only the last one touches the store: a document with any
fault leaves every slot as it was, and an accepted one changes the slots of its accepted names and no
others.

`load_ends` and `loadFile_ends` are the inversions of `load` and `loadFile`: what is known of
loading anywhere else is read off them.
-/

namespace Conform

/-! ## How loading ends -/

/-- The end of loading a text: it holds no term, or its term is not accepted, or the accepted pairs
are published. -/
inductive Loaded.Ends (file : String) (format : Format) (text : String) (schema : Schema)
    (options : LoadOptions) (s : Store) (j : Journal) : Loaded → Prop where
  | malformed {fault : DecodeFault} {session : Session} :
    (format.decode text).run j.session = (.error fault, session) →
    Ends file format text schema options s j
      ⟨.error (.malformed file fault), s, { j with session := session }⟩
  | invalid {term : Term} {session : Session} {e : ParseError} {j' : Journal} :
    (format.decode text).run j.session = (.ok term, session) →
    (schema.parse options.parse term).run { j with session := session } = (.error e, j') →
    Ends file format text schema options s j ⟨.error (.invalid file e), s, j'⟩
  | published {term : Term} {session : Session} {out : Output} {j' : Journal} :
    (format.decode text).run j.session = (.ok term, session) →
    (schema.parse options.parse term).run { j with session := session } = (.ok out, j') →
    Ends file format text schema options s j
      ⟨.ok out, (Store.publish options.owner options.scope out.accepted (s, j')).1,
        (Store.publish options.owner options.scope out.accepted (s, j')).2.log
          (.loaded file options.owner options.scope out.accepted.length out.unknown.length)⟩

/-- The inversion of `load`: undecodable text, a refused value, or an output, and what each leaves
in the store and the journal. -/
theorem load_ends (file : String) (format : Format) (text : String) (schema : Schema)
    (options : LoadOptions) (s : Store) (j : Journal) :
    Loaded.Ends file format text schema options s j (load file format text schema options s j) := by
  unfold load
  split
  · rename_i decoded
    exact .malformed decoded
  · rename_i decoded
    split
    · rename_i parsed
      exact .invalid decoded parsed
    · rename_i parsed
      exact .published decoded parsed

/-- The end of loading a file: it cannot be read, or its bytes are a text, which is loaded in the format
that the file's name tells. -/
inductive Loaded.FileEnds (file : String) (bytes : Option (List UInt8)) (schema : Schema)
    (options : LoadOptions) (s : Store) (j : Journal) : Loaded → Prop where
  | unreadable : bytes.bind Text.Utf8.decode = none →
    FileEnds file bytes schema options s j ⟨.error (.unreadable file), s, j.log (.loading file)⟩
  | read {cs : List Char} {r : Loaded} : bytes.bind Text.Utf8.decode = some cs →
    Ends file (.ofPath file) (String.ofList cs) schema options s (j.log (.loading file)) r →
    FileEnds file bytes schema options s j r

/-- The inversion of `loadFile`: a file can also be unreadable or no text. -/
theorem loadFile_ends (file : String) (bytes : Option (List UInt8)) (schema : Schema)
    (options : LoadOptions) (s : Store) (j : Journal) :
    Loaded.FileEnds file bytes schema options s j (loadFile file bytes schema options s j) := by
  unfold loadFile
  split
  · rename_i unread
    exact .unreadable unread
  · rename_i cs decoded
    exact .read decoded (load_ends file _ _ schema options s _)

/-! ## What becomes of the store -/

/-- What loading does to a store. If it fails, nothing; if it gives an output, the slot of each
accepted name gets the value of the last accepted pair of that name, and all other slots, of this
scope and of others, stay as they were. -/
structure Loaded.Publishes (r : Loaded) (options : LoadOptions) (s : Store) : Prop where
  refused : ∀ fault, r.result = .error fault → ∀ a, r.store.get? a = s.get? a
  stored : ∀ out, r.result = .ok out → ∀ before p after, out.accepted = before ++ p :: after →
    (∀ q ∈ after, q.1.name ≠ p.1.name) →
    r.store.get? ⟨options.owner, options.scope, p.1.name⟩ = some p.2
  kept : ∀ out, r.result = .ok out → ∀ a,
    (∀ p ∈ out.accepted, a ≠ ⟨options.owner, options.scope, p.1.name⟩) →
    r.store.get? a = s.get? a

theorem Loaded.Publishes.of_error {fault : LoadFault} {options : LoadOptions} {s : Store}
    {j : Journal} : (⟨.error fault, s, j⟩ : Loaded).Publishes options s where
  refused _ _ _ := rfl
  stored _ h := nomatch h
  kept _ h := nomatch h

/-- Whichever way a load ends, it publishes its output or leaves the store as it was. -/
theorem Loaded.Ends.publishes {file : String} {format : Format} {text : String} {schema : Schema}
    {options : LoadOptions} {s : Store} {j : Journal} {r : Loaded}
    (ends : Ends file format text schema options s j r) : r.Publishes options s := by
  cases ends with
  | malformed | invalid => exact .of_error
  | @published term session out j' decoded parsed =>
    refine ⟨fun _ h => (nomatch h), ?_, ?_⟩
    · intro out' h before p after split last
      cases h
      rw [split]
      exact Store.get?_publish_last last (s, j')
    · intro out' h a other
      cases h
      exact Store.get?_publish_other other (s, j')

/-- The same for a file: `Loaded.Ends.publishes` where it can be read. -/
theorem Loaded.FileEnds.publishes {file : String} {bytes : Option (List UInt8)} {schema : Schema}
    {options : LoadOptions} {s : Store} {j : Journal} {r : Loaded}
    (ends : FileEnds file bytes schema options s j r) : r.Publishes options s := by
  cases ends with
  | unreadable => exact .of_error
  | read _ ends => exact ends.publishes

/-- **Loading is atomic.** A text is decoded by `Format.decode`, its term is taken through `Schema.parse`,
and what `Store.publish` stores is the output of that parse; it ends at the first of these steps that fails.
Whatever a document holds, loading it publishes this output and nothing else, or leaves the store as it was;
the same for a file, which may also be unreadable. -/
theorem load_atomic (schema : Schema) (options : LoadOptions) (s : Store) (j : Journal) :
    (∀ format text,
      Loaded.Ends memoryName format text schema options s j (loadText format text schema options s j) ∧
      (loadText format text schema options s j).Publishes options s) ∧
    ∀ file bytes,
      Loaded.FileEnds file bytes schema options s j (loadFile file bytes schema options s j) ∧
      (loadFile file bytes schema options s j).Publishes options s := by
  constructor
  · intro format text
    have ends := load_ends memoryName format text schema options s j
    exact ⟨ends, ends.publishes⟩
  · intro file bytes
    have ends := loadFile_ends file bytes schema options s j
    exact ⟨ends, ends.publishes⟩

end Conform
