import Conform.Path
import Conform.Proofs.Text.Split
import Mathlib.Data.List.Basic

/-!
# Which locations share a path

A path is the base and the names of the keys with points between them. Below a base that is not empty, keys
whose names have no points in them are found again in the path, so different names give different paths.
The path of the top is empty and puts no point in front of a name; an empty name there leaves the path
empty, and so do all that follow until the first name that is not. These names are the only ones that a
path does not tell.
-/

namespace Conform.Path

open Conform.Text

/-- The parts of the path that keys lead to: the base and the names, without empty ones at the front. -/
def parts (p : Path) (keys : List Key) : List String :=
  (p.text :: keys.map Key.name).dropWhile (· == "")

/-- Below an empty path the first names that are empty leave no trace, as `child` puts no point
behind an empty path. -/
theorem parts_of_empty {p : Path} (h : p.text = "") (keys : List Key) :
    p.parts keys = (keys.map Key.name).dropWhile (· == "") := by
  rw [parts, h]
  rfl

theorem parts_of_ne {p : Path} (h : p.text ≠ "") (keys : List Key) :
    p.parts keys = p.text :: keys.map Key.name :=
  List.dropWhile_cons_of_neg (by simpa using h)

/-- The child of an empty path is the name alone. -/
theorem child_of_empty {p : Path} (h : p.text = "") (key : Key) : p.child key = ⟨key.name⟩ := by
  rw [child, h]
  rfl

theorem child_of_ne {p : Path} (h : p.text ≠ "") (key : Key) :
    p.child key = ⟨p.text ++ "." ++ key.name⟩ := by
  rw [child, if_neg (by simpa using h)]

/-- **A path is its parts with points between them.** -/
theorem text_descend (p : Path) (keys : List Key) : (p.descend keys).text = join "." (p.parts keys) := by
  induction keys generalizing p with
  | nil =>
    change p.text = join "." (List.dropWhile _ [p.text])
    by_cases h : p.text = ""
    · rw [h]
      rfl
    · rw [List.dropWhile_cons_of_neg (by simpa using h), join, List.map_singleton,
        List.intercalate_singleton, String.ofList_toList]
  | cons key keys ih =>
    have step : (p.descend (key :: keys)).text = join "." ((p.child key).parts keys) := ih _
    rw [step]
    by_cases h : p.text = ""
    · rw [child_of_empty h, parts_of_empty h]
      rfl
    · have longer : (p.child key).text ≠ "" := by
        rw [child_of_ne h]
        simp
      rw [parts_of_ne longer, parts_of_ne h, child_of_ne h, join, join, List.map_cons, List.map_cons,
        List.map_cons, List.map_cons, List.intercalate_cons_cons, String.toList_append,
        intercalate_append_cons, String.toList_append]

/-! ## Names without points -/

/-- Names that have no points in them. -/
def Pointless (names : List String) : Prop :=
  ∀ name ∈ names, '.' ∉ name.toList

theorem toList_join (names : List String) :
    (join "." names).toList = List.intercalate ['.'] (names.map String.toList) :=
  String.toList_ofList

theorem Pointless.map_names {keys : List Key} (h : ∀ key ∈ keys, '.' ∉ key.name.toList) :
    Pointless (keys.map Key.name) :=
  List.forall_mem_map.2 h

variable {names others : List String}

theorem Pointless.dropWhile (h : Pointless names) (p : String → Bool) : Pointless (names.dropWhile p) :=
  fun name mem => h name ((List.dropWhile_suffix p).subset mem)

theorem toList_injective : Function.Injective (List.map String.toList) :=
  List.map_injective_iff.2 fun _ _ => String.toList_inj.1

/-- The names are the pieces of the text that they make. -/
theorem pieces_join (h : Pointless names) (ne : names ≠ []) :
    pieces '.' (join "." names).toList = names.map String.toList := by
  rw [toList_join]
  exact pieces_intercalate (by simpa using ne) (List.forall_mem_map.2 h)

/-- Names of which the first is not empty make a text that is not. -/
theorem eq_nil_of_join (h : Pointless names) (first : ∀ name ∈ names.head?, name ≠ "")
    (empty : join "." names = "") : names = [] := by
  cases names with
  | nil => rfl
  | cons name names =>
    have pieces := pieces_join h (List.cons_ne_nil _ _)
    rw [empty] at pieces
    -- The text without points has one piece, which is empty.
    have none : [] = name.toList := (List.cons.inj pieces).1
    exact absurd (String.toList_inj.1 none.symm) (first name rfl)

/-- Such names are told by the text that they make. -/
theorem join_injective (h : Pointless names) (hOthers : Pointless others)
    (first : ∀ name ∈ names.head?, name ≠ "") (firstOthers : ∀ name ∈ others.head?, name ≠ "")
    (same : join "." names = join "." others) : names = others := by
  by_cases ne : names = []
  · subst ne
    exact (eq_nil_of_join hOthers firstOthers same.symm).symm
  · have neOthers : others ≠ [] := by
      rintro rfl
      exact ne (eq_nil_of_join h first same)
    apply toList_injective
    rw [← pieces_join h ne, same, pieces_join hOthers neOthers]

/-- Behind the same front all names are told, also empty ones. -/
theorem join_cons_injective (front : String) (h : Pointless names) (hOthers : Pointless others)
    (same : join "." (front :: names) = join "." (front :: others)) : names = others := by
  -- The front is put before an empty name, which has no points, whatever the front has.
  have behind (rest : List String) : (join "." (front :: rest)).toList
      = front.toList ++ (join "." ("" :: rest)).toList := by
    have split := intercalate_append_cons ['.'] front.toList [] (rest.map String.toList)
    rw [List.append_nil] at split
    rwa [toList_join, toList_join, List.map_cons]
  have tails := congrArg String.toList same
  rw [behind, behind, List.append_cancel_left_eq, String.toList_inj] at tails
  have free {rest : List String} (h : Pointless rest) : Pointless ("" :: rest) :=
    List.forall_mem_cons.2 ⟨by decide, h⟩
  have pieces : ("" :: names).map String.toList = ("" :: others).map String.toList := by
    rw [← pieces_join (free h) (List.cons_ne_nil _ _), tails,
      pieces_join (free hOthers) (List.cons_ne_nil _ _)]
  exact (List.cons.inj (toList_injective pieces)).2

theorem head_dropWhile_empty (names : List String) :
    ∀ name ∈ (names.dropWhile (· == "")).head?, name ≠ "" := by
  intro name mem
  have kept := List.head?_dropWhile_not (· == "") names
  rw [Option.mem_def.1 mem] at kept
  simpa using kept

/-! ## Locations -/

/-- **Keys without points in their names lead to the same path if and only if they have the same names,** in
the same order; below the empty path names that are empty do not count as long as no other came before. -/
theorem same_path_iff (base : Path) {keys others : List Key}
    (h : ∀ key ∈ keys, '.' ∉ key.name.toList) (hOthers : ∀ key ∈ others, '.' ∉ key.name.toList) :
    base.descend keys = base.descend others ↔
      if base.text = "" then
        (keys.map Key.name).dropWhile (· == "") = (others.map Key.name).dropWhile (· == "")
      else keys.map Key.name = others.map Key.name := by
  have texts : base.descend keys = base.descend others ↔
      join "." (base.parts keys) = join "." (base.parts others) := by
    rw [← text_descend, ← text_descend, Path.mk.injEq]
  rw [texts]
  split
  · rename_i empty
    rw [parts_of_empty empty, parts_of_empty empty]
    refine ⟨?_, congrArg _⟩
    exact join_injective ((Pointless.map_names h).dropWhile _) ((Pointless.map_names hOthers).dropWhile _)
      (head_dropWhile_empty _) (head_dropWhile_empty _)
  · rename_i ne
    rw [parts_of_ne ne, parts_of_ne ne]
    refine ⟨?_, fun same => congrArg (fun names => join "." (base.text :: names)) same⟩
    exact join_cons_injective base.text (Pointless.map_names h) (Pointless.map_names hOthers)

/-- The same two locations below a base and at the top. -/
theorem same_path_iff_listener :
    (∀ key ∈ [Key.text "", .text "port"], '.' ∉ key.name.toList) ∧
    (∀ key ∈ [Key.symbol ⟨"port"⟩], '.' ∉ key.name.toList) ∧
    Path.descend ⟨"listeners.http"⟩ [.text "", .text "port"]
      ≠ Path.descend ⟨"listeners.http"⟩ [.symbol ⟨"port"⟩] ∧
    Path.descend ⟨""⟩ [.text "", .text "port"] = Path.descend ⟨""⟩ [.symbol ⟨"port"⟩] := by
  have below : ∀ key ∈ [Key.text "", .text "port"], '.' ∉ key.name.toList := by simp [Key.name]
  have beside : ∀ key ∈ [Key.symbol ⟨"port"⟩], '.' ∉ key.name.toList := by simp [Key.name]
  have base : ("listeners.http" : String) ≠ "" := by decide
  refine ⟨below, beside, ?_, ?_⟩
  · rw [ne_eq, same_path_iff _ below beside, if_neg base]
    decide
  · rw [same_path_iff _ below beside, if_pos rfl]
    rfl

/-- At the top a name is not told from the same name below an empty one. -/
theorem empty_name_untold : ∃ keys others : List Key,
    (∀ key ∈ keys, '.' ∉ key.name.toList) ∧ (∀ key ∈ others, '.' ∉ key.name.toList) ∧
    Path.descend ⟨""⟩ keys = Path.descend ⟨""⟩ others ∧ keys.map Key.name ≠ others.map Key.name :=
  ⟨[.text "", .text "a"], [.text "a"], by simp [Key.name], by simp [Key.name], rfl, by decide⟩

end Conform.Path
