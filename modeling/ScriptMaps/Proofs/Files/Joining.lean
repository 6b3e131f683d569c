import ScriptMaps.Proofs.Files.Parents

/-!
# Paths with a slash in them

The components of a path are known from those before a slash and the pieces behind it
(`components_append_slash`). So repeated slashes, slashes at the end and dots between slashes do not
count, and a path of names below a directory has the components of the directory and the names
(`components_join`).
-/

namespace ScriptMaps.Path

variable {dir path piece : String} {names : List String}

/-! ## Components and pieces -/

/-- Every path has a first piece. -/
lemma exists_pieces (path : String) : ∃ first others, pieces path = first :: others := by
  apply List.exists_cons_of_ne_nil
  rw [pieces, Ne, List.map_eq_nil_iff]
  exact List.splitOn_ne_nil '/' path.toList

/-- Only the empty path is a single empty piece. -/
lemma eq_empty_of_pieces (h : pieces path = [""]) : path = "" := by
  obtain ⟨part, single, empty⟩ := List.map_eq_singleton_iff.1 h
  have whole : ['/'].intercalate (path.toList.splitOn '/') = path.toList :=
    List.intercalate_splitOn '/'
  rw [single, List.intercalate_singleton] at whole
  rw [← String.ofList_toList (s := path), ← whole, empty]

/-- A path begins with a root, with the directory it is seen from, or with what its pieces stand
for. -/
lemma exists_components (path : String) :
    ∃ start, (∀ c ∈ start, c = .root ∨ c = .here) ∧
      components path = start ++ (pieces path).filterMap component? := by
  unfold components
  split
  case h_1 => exact ⟨[.root], by simp, rfl⟩
  case h_2 rest e =>
    rw [e]
    exact ⟨[.here], by simp, rfl⟩
  case h_3 => exact ⟨[], nofun, rfl⟩

/-- What stands before a slash stands for the same as without it, unless the slash is the root, and
what stands behind it for what its pieces stand for. -/
lemma components_append_slash (a b : String) :
    components (a ++ "/" ++ b) =
      (if a = "" then [.root] else components a) ++ (pieces b).filterMap component? := by
  have split := pieces_append a b
  by_cases empty : a = ""
  · obtain ⟨first, others, e⟩ := exists_pieces b
    have begins : pieces (a ++ "/" ++ b) = "" :: first :: others := by
      rw [split, empty, e]
      rfl
    rw [if_pos empty, components_of_rooted begins, List.reverse_reverse, e]
    rfl
  rw [if_neg empty]
  -- Both paths begin in the same way: with a root, with a dot, or with neither.
  by_cases rooted : ∃ piece rest, pieces a = "" :: piece :: rest
  · obtain ⟨piece, rest, begins⟩ := rooted
    rw [begins, List.cons_append, List.cons_append] at split
    rw [components_of_rooted begins, components_of_rooted split, List.reverse_reverse,
      List.reverse_reverse, ← List.cons_append, List.filterMap_append, List.cons_append]
  by_cases here : ∃ rest, pieces a = "." :: rest
  · obtain ⟨rest, begins⟩ := here
    rw [begins, List.cons_append] at split
    rw [components_of_here begins, components_of_here split, List.reverse_reverse,
      List.reverse_reverse, List.filterMap_append, List.cons_append]
  · obtain ⟨piece, rest, begins⟩ := exists_pieces a
    have notEmpty : piece ≠ "" := by
      rintro rfl
      cases rest with
      | nil => exact empty (eq_empty_of_pieces begins)
      | cons next rest => exact rooted ⟨next, rest, begins⟩
    have notHere : piece ≠ "." := by
      rintro rfl
      exact here ⟨rest, begins⟩
    rw [begins, List.cons_append] at split
    have alone := components_of_relative (fun piece rest same => rooted ⟨piece, rest, same⟩)
      (fun rest same => here ⟨rest, same⟩)
    have joined : components (a ++ "/" ++ b) = _ := components_of_relative
      (fun _ _ same => notEmpty (List.cons.inj (split.symm.trans same)).1)
      (fun _ same => notHere (List.cons.inj (split.symm.trans same)).1)
    rw [alone, joined, List.reverse_reverse, List.reverse_reverse, split, begins,
      ← List.cons_append, List.filterMap_append]

/-! ## Spellings -/

/-- A slash behind a slash does not count. -/
lemma components_double_slash (a b : String) :
    components (a ++ "//" ++ b) = components (a ++ "/" ++ b) := by
  have text : a ++ "//" ++ b = a ++ "/" ++ ("" ++ "/" ++ b) := by
    simp only [String.append_assoc]
    rfl
  rw [text, components_append_slash, components_append_slash, pieces_append]
  rfl

/-- A dot between slashes does not count. -/
lemma components_inner_dot (a b : String) :
    components (a ++ "/./" ++ b) = components (a ++ "/" ++ b) := by
  have text : a ++ "/./" ++ b = a ++ "/" ++ ("." ++ "/" ++ b) := by
    simp only [String.append_assoc]
    rfl
  rw [text, components_append_slash, components_append_slash, pieces_append]
  rfl

/-- A slash at the end does not count. -/
lemma components_last_slash (some : dir ≠ "") : components (dir ++ "/") = components dir := by
  have whole := components_append_slash dir ""
  rw [String.append_empty, if_neg some] at whole
  exact whole.trans (List.append_nil _)

/-- A dot behind a slash at the end does not count. -/
lemma components_last_dot (some : dir ≠ "") : components (dir ++ "/.") = components dir := by
  have whole := components_append_slash dir "."
  rw [if_neg some, String.append_assoc] at whole
  exact whole.trans (List.append_nil _)

/-! ## Names below a directory -/

/-- A name stands for itself. -/
lemma component?_of_isName (h : IsName piece) : component? piece = some (.name piece) := by
  unfold component?
  rw [if_neg (by simp [h.nonempty, h.notHere]), if_neg (by simp [h.notUp])]

/-- Names stand for themselves, one by one. -/
lemma filterMap_names (h : ∀ n ∈ names, IsName n) :
    names.filterMap component? = names.map .name := by
  rw [← List.filterMap_eq_map']
  exact List.filterMap_congr fun n mem => component?_of_isName (h n mem)

/-- The pieces of names that are put together stand for the names. -/
lemma filterMap_pieces_names (h : ∀ n ∈ names, IsName n) :
    (pieces ("/".intercalate names)).filterMap component? = names.map .name := by
  by_cases none : names = []
  · rw [none]
    rfl
  · rw [pieces_intercalate (fun n mem => (h n mem).noSlash) none, filterMap_names h]

/-- The components of names that are put together are the names. -/
lemma components_names (h : ∀ n ∈ names, IsName n) :
    components ("/".intercalate names) = names.map .name := by
  have visible : ∀ n ∈ names.head?, isIdle n = false := by
    intro n first
    have isName := h n (List.mem_of_mem_head? first)
    simp [isIdle, isName.nonempty, isName.notHere]
  rw [components_intercalate (fun n mem => (h n mem).noSlash) visible, filterMap_names h]

/-- A path of names below a directory has the components of the directory and the names. -/
lemma components_join (h : ∀ n ∈ names, IsName n) (dir : String) :
    components (join dir ("/".intercalate names)) = components dir ++ names.map .name := by
  rw [join_eq (head?_intercalate h)]
  by_cases nothing : dir = ""
  · rw [if_pos (.inl nothing), nothing, String.empty_append, components_names h]
    rfl
  by_cases slash : dir.toList.getLast? = some '/'
  · obtain ⟨before, rfl⟩ := exists_eq_append_slash slash
    have alone := components_append_slash before ""
    rw [String.append_empty] at alone
    rw [if_pos (.inr slash), components_append_slash, filterMap_pieces_names h, alone,
      List.append_assoc]
    rfl
  · rw [if_neg (by simp [nothing, slash]), ← String.append_assoc, components_append_slash,
      if_neg nothing, filterMap_pieces_names h]

end ScriptMaps.Path
