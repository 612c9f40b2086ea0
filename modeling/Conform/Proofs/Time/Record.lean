import Conform.Proofs.Json.Strings
import Conform.Proofs.Time.Reading
import Conform.Time.Record

/-!
# Records of timestamps

A timestamp is read back from its record, whatever its precision is and whatever digits its instant has. So a
record can give every instant that there is, at every precision, and it gives no others.
-/

namespace Conform.Time.Timestamp

open Conform.Json

variable {t : Timestamp}

theorem toJson_eq_ofStrings (t : Timestamp) : t.toJson
    = ofStrings [("instant", t.instant.text .fewest), ("unit", t.precision.name)] := rfl

theorem unitOf_of_text {r : Raw} {s : String} (h : r.text? = some s) :
    unitOf? r = Precision.named? s := by
  cases r with
  | string pieces =>
    obtain ⟨cs, text, rfl⟩ := Option.map_eq_some_iff.1 h
    simp only [unitOf?, text, Option.bind_some]
  | _ => cases h

/-- Fields with the texts of a record's give its timestamp. -/
theorem ofRaw_of_fields {r : Raw} {fields : List (String × Raw)} (h : t.instant.Proper)
    (shown : r.fields? ["instant", "unit"] = some fields)
    (texts : fields.map (fun f => (f.1, f.2.text?))
      = [("instant", some (t.instant.text .fewest)), ("unit", some t.precision.name)]) :
    ofRaw? r = some t := by
  obtain ⟨⟨k, instant⟩, rest, rfl, first, texts⟩ := List.map_eq_cons_iff.1 texts
  obtain ⟨⟨k', unit⟩, rest, rfl, second, texts⟩ := List.map_eq_cons_iff.1 texts
  obtain rfl := List.map_eq_nil_iff.1 texts
  obtain ⟨rfl, instantText⟩ := Prod.mk.inj first
  obtain ⟨rfl, unitText⟩ := Prod.mk.inj second
  have instantField : Records.single? "instant" [("instant", instant), ("unit", unit)] = some (some instant) := by
    rfl
  have unitField : Records.single? "unit" [("instant", instant), ("unit", unit)] = some (some unit) := by rfl
  have read : Instant.readLoose (t.instant.text .fewest).toList = .ok t.instant :=
    Instant.readLoose_text h trivial
  simp [ofRaw?, shown, instantField, unitField, instantText, read, unitOf_of_text unitText,
    Precision.named_name, Except.toOption]

/-- A timestamp's record reads back from its text, whatever its nanoseconds. -/
theorem ofJsonText_text (h : t.instant.Proper) : ofJsonText? t.toJson.text = some t := by
  obtain ⟨raw, fields, read, shown, texts⟩ :=
    read_text_ofStrings [("instant", t.instant.text .fewest), ("unit", t.precision.name)]
  rw [ofJsonText?, toJson_eq_ofStrings, read, Option.bind_some]
  exact ofRaw_of_fields h (shown _) texts

/-- Every instant of a record has been read. -/
theorem proper_of_ofRaw {r : Raw} (h : ofRaw? r = some t) : t.instant.Proper := by
  simp only [ofRaw?, Option.bind_eq_bind, Option.bind_eq_some_iff] at h
  obtain ⟨fields, -, instant, -, raw, -, unit, -, name, -, text, -, i, taken, p, -, rest⟩ := h
  obtain rfl := Option.some.inj rest
  cases read : Instant.readLoose text.toList with
  | error fault =>
    rw [read] at taken
    cases taken
  | ok j =>
    rw [read] at taken
    obtain rfl := Option.some.inj taken
    exact Instant.proper_of_readLoose read

/-- The timestamps of records are those of the instants that have a date and a time, at any precision. -/
theorem exists_ofJsonText_iff : (∃ s, ofJsonText? s = some t) ↔ t.instant.Proper := by
  constructor
  · rintro ⟨s, h⟩
    obtain ⟨raw, -, made⟩ := Option.bind_eq_some_iff.1 h
    exact proper_of_ofRaw made
  · intro proper
    exact ⟨t.toJson.text, ofJsonText_text proper⟩

end Conform.Time.Timestamp
