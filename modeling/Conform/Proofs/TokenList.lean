import Conform.Proofs.Attempt
import Conform.Proofs.Text.Blank
import Conform.Proofs.Text.Split
import Conform.TokenList

/-!
# Tokens

Every token that is read from a text is a nonempty run of the characters that tokens have. A text is
read if it is blank or if there is a token, blanks around it aside, in every place between commas; what
is read is those tokens, so rendering them gives a text with the same reading.
-/

namespace Conform.TokenList

open Conform.Text

variable {cs : List Char} {tokens : List String} {s : String}

/-- A token. -/
def IsToken (s : String) : Prop :=
  s.toList ≠ [] ∧ ∀ c ∈ s.toList, isTokenChar c = true

/-- What stands between two commas, without the blanks around it. -/
def tokenOf (piece : List Char) : String :=
  String.ofList (trim piece)

/-! ## Piece by piece -/

/-- A piece that is a token, blanks aside, is read as it. -/
theorem readToken_of_isToken {piece : List Char} (h : IsToken (tokenOf piece)) :
    readToken piece = .ok (tokenOf piece) := by
  rw [IsToken, tokenOf, String.toList_ofList] at h
  have text : ¬(trim piece).isEmpty = true := fun e => h.1 (List.isEmpty_iff.1 e)
  have clean : (trim piece).find? (!isTokenChar ·) = none := by
    rw [List.find?_eq_none]
    intro c hc
    rw [h.2 c hc]
    exact Bool.false_ne_true
  rw [readToken, if_neg text, clean, tokenOf]

theorem isToken_of_readToken {piece : List Char} (h : readToken piece = .ok s) :
    IsToken (tokenOf piece) ∧ s = tokenOf piece := by
  unfold readToken at h
  dsimp only at h
  split at h
  · cases h
  · rename_i text
    split at h
    · cases h
    · rename_i clean
      cases h
      rw [IsToken, tokenOf, String.toList_ofList]
      refine ⟨⟨fun e => text (List.isEmpty_iff.2 e), fun c hc => ?_⟩, rfl⟩
      simpa using List.find?_eq_none.1 clean c hc

/-- The pieces are all read iff each is a token. -/
theorem mapM_readToken_eq_ok_iff {pieces : List (List Char)} : pieces.mapM readToken = .ok tokens ↔
    (∀ p ∈ pieces, IsToken (tokenOf p)) ∧ tokens = pieces.map tokenOf := by
  induction pieces generalizing tokens with
  | nil =>
    constructor
    · intro h
      cases h
      exact ⟨List.forall_mem_nil _, rfl⟩
    · rintro ⟨-, rfl⟩
      rfl
  | cons p ps ih =>
    rw [List.mapM_cons, List.forall_mem_cons]
    constructor
    · intro h
      obtain ⟨s, hp, h⟩ := Attempt.bind_eq_ok.1 h
      obtain ⟨rest, hps, made⟩ := Attempt.bind_eq_ok.1 h
      cases made
      obtain ⟨token, rfl⟩ := isToken_of_readToken hp
      obtain ⟨all, rfl⟩ := ih.1 hps
      exact ⟨⟨token, all⟩, rfl⟩
    · rintro ⟨⟨token, all⟩, rfl⟩
      rw [readToken_of_isToken token, ih.2 ⟨all, rfl⟩]
      rfl

/-- A blank text has no tokens, any other a token in every place between commas. -/
theorem read_eq_ok_iff : read cs = .ok tokens ↔ (∀ c ∈ cs, isBlank c = true) ∧ tokens = [] ∨
    (∀ p ∈ cs.splitOn ',', IsToken (tokenOf p)) ∧ tokens = (cs.splitOn ',').map tokenOf := by
  unfold read
  split
  · rename_i empty
    have blank := trim_eq_nil_iff.1 (List.isEmpty_iff.1 empty)
    constructor
    · intro h
      cases h
      exact .inl ⟨blank, rfl⟩
    · rintro (⟨-, rfl⟩ | ⟨all, -⟩)
      · rfl
      · -- The only place is the whole text, and no token is left of it.
        have uncut : ',' ∉ cs := fun comma => absurd (blank ',' comma) (by decide)
        rw [List.splitOn_eq_singleton uncut, List.forall_mem_singleton] at all
        refine absurd ?_ all.1
        rw [tokenOf, String.toList_ofList, trim_eq_nil_iff.2 blank]
  · rename_i text
    rw [mapM_readToken_eq_ok_iff, pieces_eq_splitOn]
    constructor
    · exact .inr
    · rintro (⟨blank, -⟩ | read)
      · exact absurd (List.isEmpty_iff.2 (trim_eq_nil_iff.2 blank)) text
      · exact read

theorem isToken_of_read (h : read cs = .ok tokens) : ∀ t ∈ tokens, IsToken t := by
  rcases read_eq_ok_iff.1 h with ⟨-, rfl⟩ | ⟨all, rfl⟩
  · exact List.forall_mem_nil _
  · exact List.forall_mem_map.2 all

/-! ## The alphabet of tokens -/

/-- Tokens are made of the characters of ASCII that print, but for the space. -/
theorem bounds_of_isTokenChar {c : Char} (h : isTokenChar c = true) :
    33 ≤ c.toNat ∧ c.toNat ≤ 126 := by
  have marks : "!#$%&'*+-.^_\x60|~".toList.all
      (fun c => decide (33 ≤ c.toNat ∧ c.toNat ≤ 126)) = true := by
    decide
  rw [isTokenChar, Bool.or_eq_true, Bool.or_eq_true] at h
  rcases h with (letter | digit) | mark
  · have cases : ('a' ≤ c ∧ c ≤ 'z') ∨ ('A' ≤ c ∧ c ≤ 'Z') := by simpa [isLetter] using letter
    have range : (97 ≤ c.toNat ∧ c.toNat ≤ 122) ∨ (65 ≤ c.toNat ∧ c.toNat ≤ 90) := cases
    omega
  · have both : '0' ≤ c ∧ c ≤ '9' := by simpa [isDigit] using digit
    have range : 48 ≤ c.toNat ∧ c.toNat ≤ 57 := both
    omega
  · exact of_decide_eq_true (List.all_eq_true.1 marks c (List.contains_iff_mem.1 mark))

theorem not_blank_of_isTokenChar {c : Char} (h : isTokenChar c = true) : isBlank c = false := by
  obtain ⟨low, high⟩ := bounds_of_isTokenChar h
  exact not_blank_of_bounds low high

theorem IsToken.comma (h : IsToken s) : ',' ∉ s.toList := by
  intro comma
  have allowed := h.2 ',' comma
  contradiction

theorem IsToken.tokenOf_self (h : IsToken s) : tokenOf s.toList = s := by
  rw [tokenOf, trim_of_no_blank fun c hc => not_blank_of_isTokenChar (h.2 c hc),
    String.ofList_toList]

/-- The blank that the rendering puts behind a comma is trimmed off. -/
theorem IsToken.tokenOf_spaced (h : IsToken s) : tokenOf (' ' :: s.toList) = s := by
  have space : ∀ c ∈ [' '], isBlank c = true := List.forall_mem_singleton.2 rfl
  have cut := trim_between_blanks space (List.forall_mem_nil _) s.toList
  rw [List.append_nil] at cut
  exact (congrArg String.ofList cut).trans h.tokenOf_self

/-! ## Rendered tokens -/

/-- A rendered list is its tokens, a comma and a blank between them. -/
theorem toList_render_cons (t : String) (ts : List String) : (render (t :: ts)).toList =
    List.intercalate [','] (t.toList :: ts.map fun s => ' ' :: s.toList) := by
  rw [render, join, String.toList_ofList]
  exact (intercalate_cons_sep ',' [' '] t.toList (ts.map String.toList)).trans
    (by rw [List.map_map]; rfl)

/-- Rendered tokens are read as the tokens. -/
theorem read_render (h : ∀ t ∈ tokens, IsToken t) : read (render tokens).toList = .ok tokens := by
  rw [read_eq_ok_iff]
  cases tokens with
  | nil => exact .inl ⟨List.forall_mem_nil _, rfl⟩
  | cons t ts =>
    obtain ⟨first, rest⟩ := List.forall_mem_cons.1 h
    have uncut : ∀ p ∈ t.toList :: ts.map fun s => ' ' :: s.toList, ',' ∉ p := by
      refine List.forall_mem_cons.2 ⟨first.comma, List.forall_mem_map.2 fun s hs => ?_⟩
      rw [List.mem_cons, not_or]
      exact ⟨by decide, (rest s hs).comma⟩
    have places := List.splitOn_intercalate ',' uncut (List.cons_ne_nil _ _)
    have tokens : (t.toList :: ts.map fun s => ' ' :: s.toList).map tokenOf = t :: ts := by
      rw [List.map_cons, List.map_map, first.tokenOf_self]
      exact congrArg (t :: ·)
        ((List.map_congr_left fun s hs => (rest s hs).tokenOf_spaced).trans (List.map_id ts))
    rw [toList_render_cons, places, tokens]
    refine .inr ⟨?_, rfl⟩
    rw [← tokens] at h
    exact List.forall_mem_map.1 h

/-- **Token lists** are read from blank texts, as the empty list, and from texts with a token in every
place between commas, as those tokens. Rendered, what was read is read again, so two texts are rendered
alike if and only if they are read alike. -/
theorem token_lists_read_back (cs : List Char) :
    (∀ tokens, read cs = .ok tokens ↔ (∀ c ∈ cs, isBlank c = true) ∧ tokens = [] ∨
      (∀ p ∈ cs.splitOn ',', IsToken (tokenOf p)) ∧ tokens = (cs.splitOn ',').map tokenOf) ∧
    ∀ tokens, read cs = .ok tokens → read (render tokens).toList = .ok tokens ∧
      ∀ ds others, read ds = .ok others → (render tokens = render others ↔ tokens = others) := by
  refine ⟨fun tokens => read_eq_ok_iff, fun tokens h => ?_⟩
  have back := read_render (isToken_of_read h)
  refine ⟨back, fun ds others hothers => ⟨fun same => ?_, congrArg render⟩⟩
  have backOthers := read_render (isToken_of_read hothers)
  rw [← same, back] at backOthers
  exact Except.ok.inj backOthers

/-- Blanks of several kinds around the tokens, among them one that ASCII does not have; a text with
nothing between two commas. -/
theorem token_lists_read_back_encodings :
    let loose : List Char := "\tgzip,\u3000x-a+b ,\n br".toList
    let tight : List Char := "gzip,x-a+b,br".toList
    let tokens := ["gzip", "x-a+b", "br"]
    read loose = .ok tokens ∧ read tight = .ok tokens ∧ render tokens = "gzip, x-a+b, br" ∧
      read (render tokens).toList = .ok tokens ∧ (render tokens = render tokens ↔ tokens = tokens) ∧
      ∀ tokens, read "gzip,,br".toList ≠ .ok tokens := by
  intro loose tight tokens
  have hloose : read loose = .ok tokens := rfl
  have htight : read tight = .ok tokens := rfl
  obtain ⟨back, alike⟩ := (token_lists_read_back loose).2 tokens hloose
  refine ⟨hloose, htight, by decide +kernel, back, alike tight tokens htight, fun others h => ?_⟩
  rcases ((token_lists_read_back _).1 others).1 h with ⟨blank, -⟩ | ⟨all, -⟩
  · exact absurd (blank 'g' (by decide)) (by decide)
  · exact (all [] (by decide)).1 (by decide)

end Conform.TokenList
