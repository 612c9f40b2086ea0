import Conform.Json.Record
import Conform.Json.Text

/-!
# Written strings

A string is read back from the form that it is written in, whatever characters it has and whatever follows it.
So an object whose values are strings is read back as well. Its tokens are put together from the last to the
first, since what follows a token has to be known to cut it off.
-/

namespace Conform.Json

open Conform.Text

variable {c : Char} {cs rest : List Char}

/-! ## Characters -/

theorem readString_plain (quote : c ≠ '"') (backslash : c ≠ '\\') (printing : ¬c.toNat < 0x20)
    (cs : List Char) :
    readString (c :: cs) = (readString cs).map fun p => (.char c :: p.1, p.2) := by
  rw [readString]
  · rw [if_neg printing]
  · exact quote
  · exact fun _ _ _ _ _ h => absurd h backslash
  · exact fun _ _ h => absurd h backslash

theorem readString_escaped {d : Char} (h : escaped? d = some c) (cs : List Char) :
    readString ('\\' :: d :: cs) = (readString cs).map fun p => (.char c :: p.1, p.2) := by
  rw [readString]
  · rw [h]
    cases readString cs <;> rfl
  · rintro _ _ _ _ _ rfl
    cases h

theorem readString_unicode {w x y z : Char} {n : Nat} (h : readNat? 16 [w, x, y, z] = some n)
    (cs : List Char) :
    readString ('\\' :: 'u' :: w :: x :: y :: z :: cs)
      = (readString cs).map fun p => (.codeUnit n :: p.1, p.2) := by
  rw [readString, h]
  cases readString cs <;> rfl

/-- The four hexadecimal digits of a control character. -/
theorem digits_of_control : ∀ n < 0x20,
    List.replicate (4 - (Nat.toDigits 16 n).length) '0' ++ Nat.toDigits 16 n
      = ['0', '0', Nat.digitChar (n / 16), Nat.digitChar (n % 16)] ∧
    readNat? 16 ['0', '0', Nat.digitChar (n / 16), Nat.digitChar (n % 16)] = some n := by
  decide

/-- A number below the surrogates is that of a character. -/
theorem text_codeUnit (control : c.toNat < 0x20) (pieces : List Piece) :
    Piece.text? (.codeUnit c.toNat :: pieces) = (Piece.text? pieces).map (c :: ·) := by
  rw [Piece.text?.eq_def]
  dsimp only
  rw [if_pos (by omega), Char.ofNat_toNat]

/-- The form of a character is read as one piece, which stands for the character. -/
theorem exists_piece (c : Char) (cs : List Char) : ∃ piece,
    readString (escapeChar c ++ cs) = (readString cs).map (fun p => (piece :: p.1, p.2)) ∧
    ∀ pieces, Piece.text? (piece :: pieces) = (Piece.text? pieces).map (c :: ·) := by
  unfold escapeChar
  split
  · exact ⟨.char '"', readString_escaped rfl cs, fun _ => rfl⟩
  · exact ⟨.char '\\', readString_escaped rfl cs, fun _ => rfl⟩
  · exact ⟨.char '\n', readString_escaped rfl cs, fun _ => rfl⟩
  · exact ⟨.char '\r', readString_escaped rfl cs, fun _ => rfl⟩
  · exact ⟨.char '\t', readString_escaped rfl cs, fun _ => rfl⟩
  · exact ⟨.char '\x08', readString_escaped rfl cs, fun _ => rfl⟩
  · exact ⟨.char '\x0c', readString_escaped rfl cs, fun _ => rfl⟩
  · split
    · rename_i control
      obtain ⟨digits, value⟩ := digits_of_control c.toNat control
      refine ⟨.codeUnit c.toNat, ?_, text_codeUnit control⟩
      dsimp only
      rw [List.append_assoc ['\\', 'u'], digits]
      exact readString_unicode value cs
    · exact ⟨.char c, readString_plain ‹_› ‹_› ‹_› cs, fun _ => rfl⟩

/-! ## Strings -/

/-- A string is read up to its closing quote. -/
theorem readString_escaped_text (cs rest : List Char) : ∃ pieces,
    readString (cs.flatMap escapeChar ++ '"' :: rest) = some (pieces, rest) ∧
    Piece.text? pieces = some cs := by
  induction cs with
  | nil => exact ⟨[], rfl, rfl⟩
  | cons c cs ih =>
    obtain ⟨pieces, read, text⟩ := ih
    obtain ⟨piece, first, stands⟩ := exists_piece c (cs.flatMap escapeChar ++ '"' :: rest)
    refine ⟨piece :: pieces, ?_, ?_⟩
    · rw [List.flatMap_cons, List.append_assoc, first, read]
      rfl
    · rw [stands, text]
      rfl

theorem toList_stringText (s : String) :
    (stringText s).toList = '"' :: (s.toList.flatMap escapeChar ++ ['"']) :=
  String.toList_ofList

/-! ## Tokens -/

/-- The tokens of a text, with any fuel that is enough for its length. -/
def Tokens (cs : List Char) (tokens : List Token) : Prop :=
  ∀ fuel, cs.length ≤ fuel → readTokens fuel cs = some tokens

variable {token : Token} {tokens : List Token}

theorem Tokens.nil : Tokens [] [] := by
  intro fuel _
  cases fuel <;> rfl

/-- One token and then the others. The rest must be no longer than the input, on which `tokenize`
recurs. -/
theorem Tokens.cons (blank : [' ', '\t', '\n', '\r'].contains c = false)
    (first : readToken c cs = some (token, rest)) (shorter : rest.length ≤ cs.length)
    (tail : Tokens rest tokens) : Tokens (c :: cs) (token :: tokens) := by
  intro fuel enough
  cases fuel with
  | zero => cases enough
  | succ fuel =>
    rw [List.length_cons] at enough
    rw [readTokens, blank, first]
    simp [tail fuel (by omega)]

/-- A token of one character. -/
theorem Tokens.mark (c : Char) (token : Token) (blank : [' ', '\t', '\n', '\r'].contains c = false)
    (first : ∀ cs, readToken c cs = some (token, cs)) (tail : Tokens rest tokens) :
    Tokens (c :: rest) (token :: tokens) :=
  .cons blank (first rest) (Nat.le_refl _) tail

/-- A string that was written is one token, and its pieces are the string again. -/
theorem Tokens.string (s : String) (tail : Tokens rest tokens) : ∃ pieces,
    Tokens ((stringText s).toList ++ rest) (.scalar (.string pieces) :: tokens) ∧
    Piece.text? pieces = some s.toList := by
  obtain ⟨pieces, read, text⟩ := readString_escaped_text s.toList rest
  refine ⟨pieces, ?_, text⟩
  rw [toList_stringText, List.cons_append, List.append_assoc]
  have first : readToken '"' (s.toList.flatMap escapeChar ++ '"' :: rest)
      = some (.scalar (.string pieces), rest) := by
    change (readString (s.toList.flatMap escapeChar ++ '"' :: rest)).map _ = _
    rw [read]
    rfl
  refine .cons (by decide) first ?_ tail
  simp only [List.length_append, List.length_cons]
  omega

/-! ## Objects of strings -/

def ofStrings (members : List (String × String)) : Json :=
  .object (members.map fun m => (m.1, .string m.2))

/-- How a member is written. -/
def memberChars (m : String × String) : List Char :=
  (stringText m.1).toList ++ ':' :: (stringText m.2).toList

theorem memberTexts_strings (members : List (String × String)) :
    (memberTexts (members.map fun m => (m.1, Json.string m.2))).map String.toList
      = members.map memberChars := by
  induction members with
  | nil => rfl
  | cons m ms ih =>
    have colon : ":".toList = [':'] := rfl
    have first : (stringText m.1 ++ ":" ++ text (.string m.2)).toList = memberChars m := by
      rw [text, String.toList_append, String.toList_append, colon, List.append_assoc]
      rfl
    rw [List.map_cons, memberTexts, List.map_cons, first, ih, List.map_cons]

/-- The text of an object of strings, character by character: its members with commas between them. -/
theorem toList_text_ofStrings (members : List (String × String)) : (ofStrings members).text.toList =
    '\x7b' :: (List.intercalate [','] (members.map memberChars) ++ ['\x7d']) := by
  have opening : "\x7b".toList = ['\x7b'] := rfl
  have closing : "\x7d".toList = ['\x7d'] := rfl
  have comma : ",".toList = [','] := rfl
  rw [ofStrings, text, join, String.toList_append, String.toList_append, opening, closing, comma,
    String.toList_ofList, memberTexts_strings]
  rfl

theorem Tokens.member (m : String × String) (tail : Tokens rest tokens) : ∃ key value,
    Tokens (memberChars m ++ rest)
      (.scalar (.string key) :: .colon :: .scalar (.string value) :: tokens) ∧
    Piece.text? key = some m.1.toList ∧ Piece.text? value = some m.2.toList := by
  obtain ⟨value, cut, content⟩ := tail.string m.2
  obtain ⟨key, cut, name⟩ := (Tokens.mark ':' .colon (by decide) (fun _ => rfl) cut).string m.1
  refine ⟨key, value, ?_, name, content⟩
  rwa [memberChars, List.append_assoc, List.cons_append]

/-- The fields of an object whose first key is a text. -/
theorem fields_cons {names : List String} {key : List Piece} {name : String} {raws : List (List Piece × Raw)}
    {fields : List (String × Raw)} (r : Raw) (first : Piece.text? key = some name.toList)
    (h : (Raw.object raws).fields? names = some fields) :
    (Raw.object ((key, r) :: raws)).fields? names = some ((name, r) :: fields) := by
  change raws.mapM _ = some fields at h
  change List.mapM _ ((key, r) :: raws) = _
  rw [List.mapM_cons, h, first, Option.map_some, String.ofList_toList]
  rfl

/-- What members are gathered of does not begin with the end of an object. -/
theorem gatherValue_object {fuel : Nat} {raws : List (List Piece × Raw)} {after : List Token}
    (h : gatherMembers fuel tokens = some (raws, after)) :
    gatherValue (fuel + 1) (.openObject :: tokens) = some (.object raws, after) := by
  simp only [gatherValue]
  split
  · cases fuel <;> simp [gatherMembers] at h
  · rw [h]
    rfl

/-- The members of an object, as they are gathered from the tokens of their forms. -/
structure Gathered (members : List (String × String)) (tokens : List Token)
    (raws : List (List Piece × Raw)) (fields : List (String × Raw)) : Prop where
  gather : ∀ fuel, tokens.length ≤ fuel → gatherMembers fuel tokens = some (raws, [])
  shown : ∀ names, (Raw.object raws).fields? names = some fields
  texts : fields.map (fun f => (f.1, f.2.text?)) = members.map fun m => (m.1, some m.2)

/-- Members that were written are read back in their order, by induction on the members. The last
one ends at the brace, each other one at a comma. -/
theorem exists_gathered (m : String × String) (ms : List (String × String)) : ∃ tokens raws fields,
    Tokens (List.intercalate [','] ((m :: ms).map memberChars) ++ ['\x7d']) tokens ∧
    Gathered (m :: ms) tokens raws fields := by
  induction ms generalizing m with
  | nil =>
    obtain ⟨key, value, cut, name, content⟩ :=
      (Tokens.mark '\x7d' .closeObject (by decide) (fun _ => rfl) .nil).member m
    rw [List.map_cons, List.map_nil, List.intercalate_singleton]
    refine ⟨_, [(key, .string value)], [(m.1, .string value)], cut, ?_, ?_, ?_⟩
    · intro fuel enough
      simp only [List.length_cons, List.length_nil] at enough
      obtain ⟨fuel, rfl⟩ := Nat.exists_eq_add_of_le' (show 2 ≤ fuel by omega)
      rfl
    · intro names
      exact fields_cons _ name rfl
    · simp [Raw.text?, content]
  | cons n ns ih =>
    -- The first member and the comma stand before the tokens of the others.
    obtain ⟨tokens, raws, fields, cut, gathered⟩ := ih n
    obtain ⟨key, value, cut, name, content⟩ := (Tokens.mark ',' .comma (by decide) (fun _ => rfl) cut).member m
    rw [List.map_cons, List.map_cons, List.intercalate_cons_cons, List.append_assoc, List.append_assoc]
    refine ⟨_, (key, .string value) :: raws, (m.1, .string value) :: fields, cut, ?_, ?_, ?_⟩
    · intro fuel enough
      simp only [List.length_cons] at enough
      obtain ⟨fuel, rfl⟩ := Nat.exists_eq_add_of_le' (show 2 ≤ fuel by omega)
      have rest := gathered.gather (fuel + 1) (by omega)
      simp [gatherMembers, gatherValue, rest]
    · intro names
      exact fields_cons _ name (gathered.shown names)
    · rw [List.map_cons, gathered.texts]
      simp [Raw.text?, content]

/-- **An object of strings is read back.** The fields it shows are its members in their order, with their
texts. -/
theorem read_text_ofStrings (members : List (String × String)) : ∃ raw fields,
    Raw.read? (ofStrings members).text.toList = some raw ∧ (∀ names, raw.fields? names = some fields) ∧
    fields.map (fun f => (f.1, f.2.text?)) = members.map fun m => (m.1, some m.2) := by
  rw [toList_text_ofStrings]
  cases members with
  | nil => exact ⟨.object [], [], rfl, fun _ => rfl, rfl⟩
  | cons m ms =>
    obtain ⟨tokens, raws, fields, cut, gathered⟩ := exists_gathered m ms
    refine ⟨.object raws, fields, ?_, gathered.shown, gathered.texts⟩
    have all := Tokens.mark '\x7b' .openObject (by decide) (fun _ => rfl) cut _ (Nat.le_refl _)
    have tree := gatherValue_object (gathered.gather (2 * (tokens.length + 1)) (by omega))
    rw [Raw.read?, all, Option.bind_eq_bind, Option.bind_some, List.length_cons, tree]
    rfl

end Conform.Json
