import ScriptMaps.Files.Path
import Mathlib.Data.List.Basic
import Mathlib.Tactic

/-!
# Paths and their names

A path is put together again from what stands between its slashes (`pieces_intercalate`), and a path
below a directory has the pieces of both (`pieces_join`). Of the components of a path, the names are
those that lead downwards; a name is a piece that stands for nothing but itself (`IsName`).
-/

namespace ScriptMaps.Path

/-! ## Pieces -/

/-- What a text is split at is in none of the parts. -/
lemma not_mem_of_mem_splitOn {a : Char} {text part : List Char} (h : part ∈ text.splitOn a) :
    a ∉ part := by
  induction text generalizing part with
  | nil =>
    rw [List.splitOn_nil, List.mem_singleton] at h
    rw [h]
    exact List.not_mem_nil
  | cons c text ih =>
    rw [List.splitOn_cons_eq_if_modifyHead] at h
    split at h
    case isTrue =>
      obtain rfl | mem := List.mem_cons.1 h
      · exact List.not_mem_nil
      · exact ih mem
    case isFalse different =>
      cases e : text.splitOn a with
      | nil => exact absurd e (List.splitOn_ne_nil a text)
      | cons first others =>
        rw [e] at ih h
        obtain rfl | mem := List.mem_cons.1 h
        · have kept := ih List.mem_cons_self
          simp only [List.mem_cons, not_or]
          exact ⟨fun same => different (by simp [same]), kept⟩
        · exact ih (List.mem_cons_of_mem _ mem)

/-- No piece of a path has a slash in it. -/
lemma slash_not_mem_of_mem_pieces {path piece : String} (h : piece ∈ pieces path) :
    '/' ∉ piece.toList := by
  obtain ⟨part, mem, rfl⟩ := List.mem_map.1 h
  rw [String.toList_ofList]
  exact not_mem_of_mem_splitOn mem

/-- The pieces before a slash and those behind it. -/
lemma pieces_append (a b : String) : pieces (a ++ "/" ++ b) = pieces a ++ pieces b := by
  have text : (a ++ "/" ++ b).toList = a.toList ++ '/' :: b.toList := by
    rw [String.toList_append, String.toList_append, List.append_assoc]
    rfl
  rw [pieces, text, List.splitOn_append_cons_self, List.map_append]
  rfl

/-- Texts without slashes are the pieces of the path that they are put together to. -/
lemma pieces_intercalate {names : List String} (noSlash : ∀ n ∈ names, '/' ∉ n.toList)
    (some : names ≠ []) : pieces ("/".intercalate names) = names := by
  have parts : ∀ part ∈ names.map String.toList, '/' ∉ part := by
    intro part mem
    obtain ⟨n, isIn, rfl⟩ := List.mem_map.1 mem
    exact noSlash n isIn
  have text : ("/".intercalate names).toList = ['/'].intercalate (names.map String.toList) :=
    String.toList_intercalate
  rw [pieces, text, List.splitOn_intercalate _ parts (by simpa using some), List.map_map]
  simp

/-! ## Names -/

/-- A piece that stands for itself and leads downwards. -/
structure IsName (piece : String) : Prop where
  nonempty : piece ≠ ""
  notHere : piece ≠ "."
  notUp : piece ≠ ".."
  noSlash : '/' ∉ piece.toList

/-- Whether a piece is a name is seen from its text. -/
instance (piece : String) : Decidable (IsName piece) :=
  decidable_of_iff (piece ≠ "" ∧ piece ≠ "." ∧ piece ≠ ".." ∧ '/' ∉ piece.toList)
    ⟨fun ⟨a, b, c, d⟩ => ⟨a, b, c, d⟩, fun ⟨a, b, c, d⟩ => ⟨a, b, c, d⟩⟩

/-- A piece that stands for a name is the name. -/
lemma component?_eq_name {piece name : String} (h : component? piece = some (.name name)) :
    name = piece ∧ piece ≠ "" ∧ piece ≠ "." ∧ piece ≠ ".." := by
  unfold component? at h
  split at h
  case isTrue => cases h
  case isFalse idle =>
    split at h
    case isTrue => cases h
    case isFalse up =>
      cases h
      simp only [Bool.or_eq_true, beq_iff_eq, not_or] at idle up
      exact ⟨rfl, idle.1, idle.2, up⟩

/-- The names that pieces of a path stand for are names. -/
lemma isName_of_mem_filterMap {path name : String} {some : List String} (sub : some ⊆ pieces path)
    (h : Component.name name ∈ some.filterMap component?) : IsName name := by
  obtain ⟨piece, mem, stands⟩ := List.mem_filterMap.1 h
  obtain ⟨rfl, nonempty, notHere, notUp⟩ := component?_eq_name stands
  exact ⟨nonempty, notHere, notUp, slash_not_mem_of_mem_pieces (sub mem)⟩

/-- The names among the components of a path are names. -/
lemma isName_of_mem_components {path name : String} (h : .name name ∈ components path) :
    IsName name := by
  unfold components at h
  split at h
  case h_1 =>
    obtain root | mem := List.mem_cons.1 h
    · cases root
    · exact isName_of_mem_filterMap (List.Subset.refl _) mem
  case h_2 rest e =>
    obtain here | mem := List.mem_cons.1 h
    · cases here
    · have sub : rest ⊆ pieces path := by
        rw [e]
        exact List.subset_cons_self _ _
      exact isName_of_mem_filterMap sub mem
  case h_3 => exact isName_of_mem_filterMap (List.Subset.refl _) h

/-! ## Paths below a directory -/

section Join

variable {dir rel : String}

/-- A path below a directory begins with the directory. -/
lemma join_eq (relative : rel.toList.head? ≠ some '/') :
    join dir rel =
      dir ++ (if dir = "" ∨ dir.toList.getLast? = some '/' then rel else "/" ++ rel) := by
  unfold join
  rw [if_neg (by simpa using relative)]
  by_cases ends : dir = "" ∨ dir.toList.getLast? = some '/'
  · rw [if_pos ends, if_pos (by simpa using ends)]
  · rw [if_neg ends, if_neg (by simpa using ends), String.append_assoc]

/-- A path below a directory begins with a slash only if the directory does. -/
lemma head?_join (relative : rel.toList.head? ≠ some '/') :
    (join dir rel).toList.head? = some '/' ↔ dir.toList.head? = some '/' := by
  rw [join_eq relative]
  by_cases nothing : dir = ""
  · simpa [nothing] using relative
  · rw [String.toList_append, List.head?_append_of_ne_nil]
    exact mt String.toList_eq_nil_iff.1 nothing

/-- A directory that ends in a slash is something with a slash behind it. -/
lemma exists_eq_append_slash (ends : dir.toList.getLast? = some '/') :
    ∃ before, dir = before ++ "/" := by
  obtain ⟨before, whole⟩ := List.getLast?_eq_some_iff.1 ends
  refine ⟨String.ofList before, String.toList_injective ?_⟩
  rw [whole, String.toList_append, String.toList_ofList]
  rfl

/-- The pieces of a path below a directory are those of the directory and those of the path. There
is an empty piece between two slashes, which is gone if the directory ends in a slash. -/
lemma pieces_join (relative : rel.toList.head? ≠ some '/') :
    ∃ before, pieces (join dir rel) = before ++ pieces rel ∧
      (pieces dir = before ∨ pieces dir = before ++ [""]) := by
  have empty : pieces "" = [""] := rfl
  rw [join_eq relative]
  by_cases nothing : dir = ""
  · refine ⟨[], ?_, .inr ?_⟩
    · rw [if_pos (.inl nothing), nothing, String.empty_append]
      rfl
    · rw [nothing]
      exact empty
  · by_cases slash : dir.toList.getLast? = some '/'
    · obtain ⟨before, split⟩ := exists_eq_append_slash slash
      refine ⟨pieces before, ?_, .inr ?_⟩
      · rw [if_pos (.inr slash), split, pieces_append]
      · rw [← empty, ← pieces_append, String.append_empty, split]
    · refine ⟨pieces dir, ?_, .inl rfl⟩
      rw [if_neg (by simp [nothing, slash]), ← String.append_assoc, pieces_append]

end Join

/-- Names that are put together do not begin with a slash. -/
lemma head?_intercalate {names : List String} (h : ∀ n ∈ names, IsName n) :
    ("/".intercalate names).toList.head? ≠ some '/' := by
  intro root
  cases names with
  | nil => cases root
  | cons n names =>
    have isName := h n List.mem_cons_self
    rw [String.toList_intercalate, List.map_cons] at root
    have head : n.toList.head? = some '/' := by
      cases e : n.toList with
      | nil => exact absurd (String.toList_eq_nil_iff.1 e) isName.nonempty
      | cons c cs =>
        rw [e] at root
        cases names <;> simpa [List.intercalate] using root
    exact isName.noSlash (List.mem_of_mem_head? head)

end ScriptMaps.Path
