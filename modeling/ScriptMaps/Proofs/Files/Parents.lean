import ScriptMaps.Proofs.Files.Paths

/-!
# Parents of paths

The parent of a path has all its components but the last, however many slashes and components that
stand for nothing it is written with (`isParent_parent?`). Only a root and a path without components
have none; what has one relative component has the empty path as its parent.
-/

namespace ScriptMaps.Path

variable {reversed before names : List String} {path piece : String}

/-- An empty piece and a dot stand for no component. -/
lemma component?_eq_none (idle : isIdle piece = true) : component? piece = none := by
  unfold component?
  exact if_pos idle

/-- No piece stands for a root. -/
lemma component?_ne_root {c : Component} (h : component? piece = some c) : c ≠ .root := by
  unfold component? at h
  split at h
  case isTrue => cases h
  case isFalse =>
    split at h <;> cases h <;> exact Component.noConfusion

/-- Any other piece stands for a component. -/
lemma exists_component (visible : isIdle piece = false) : ∃ c, component? piece = some c := by
  unfold component?
  rw [if_neg (by rw [← isIdle, visible]; exact Bool.false_ne_true)]
  split
  case isTrue => exact ⟨_, rfl⟩
  case isFalse => exact ⟨_, rfl⟩

/-- Pieces at the end that stand for no component can be dropped. -/
lemma filterMap_dropIdle (reversed : List String) :
    (dropIdle reversed).reverse.filterMap component? = reversed.reverse.filterMap component? := by
  induction reversed with
  | nil => rfl
  | cons piece reversed ih =>
    cases idle : isIdle piece with
    | true =>
      have dropped : dropIdle (piece :: reversed) = dropIdle reversed :=
        List.dropWhile_cons_of_pos idle
      rw [dropped, ih, List.reverse_cons, List.filterMap_append, List.filterMap_cons,
        component?_eq_none idle]
      exact (List.append_nil _).symm
    | false =>
      have kept : dropIdle (piece :: reversed) = piece :: reversed :=
        List.dropWhile_cons_of_neg (by rw [idle]; exact Bool.false_ne_true)
      rw [kept]

/-- The components of pieces are those of the pieces before the last one that stands for a
component, and that one. -/
lemma filterMap_of_dropIdle_cons (h : dropIdle reversed = piece :: before) :
    ∃ c, c ≠ .root ∧ reversed.reverse.filterMap component? =
      (dropIdle before).reverse.filterMap component? ++ [c] := by
  have visible : isIdle piece = false := by
    have first := List.head?_dropWhile_not isIdle reversed
    rw [← dropIdle, h] at first
    exact first
  obtain ⟨c, stands⟩ := exists_component visible
  refine ⟨c, component?_ne_root stands, ?_⟩
  rw [filterMap_dropIdle, ← filterMap_dropIdle reversed, h, List.reverse_cons,
    List.filterMap_append, List.filterMap_cons, stands]
  rfl

/-- Pieces that all stand for nothing have no components. -/
lemma filterMap_of_dropIdle_nil (h : dropIdle reversed = []) :
    reversed.reverse.filterMap component? = [] := by
  rw [← filterMap_dropIdle, h]
  rfl

/-- The pieces before the last one that stands for a component are followed by that one. -/
lemma exists_eq_append_dropIdle (h : dropIdle reversed = piece :: before) :
    ∃ next others, reversed.reverse = (dropIdle before).reverse ++ next :: others := by
  have whole : reversed = reversed.takeWhile isIdle ++ piece :: before := by
    rw [← h]
    exact List.takeWhile_append_dropWhile.symm
  have inner : before = before.takeWhile isIdle ++ dropIdle before :=
    List.takeWhile_append_dropWhile.symm
  have more : (before.takeWhile isIdle).reverse ++ piece :: (reversed.takeWhile isIdle).reverse ≠
      [] := by simp
  obtain ⟨next, others, e⟩ := List.exists_cons_of_ne_nil more
  refine ⟨next, others, ?_⟩
  rw [← e, ← List.append_assoc, ← List.reverse_append, ← inner]
  conv_lhs => rw [whole]
  rw [List.reverse_append, List.reverse_cons, List.append_assoc, List.singleton_append]

/-- The pieces before the last one that stands for a component have no slashes. -/
lemma slash_not_mem_dropIdle (noSlash : ∀ n ∈ reversed, '/' ∉ n.toList)
    (h : dropIdle reversed = piece :: before) :
    ∀ n ∈ (dropIdle before).reverse, '/' ∉ n.toList := by
  intro n mem
  have kept : n ∈ dropIdle reversed := by
    rw [h]
    exact List.mem_cons_of_mem _ ((List.dropWhile_sublist _).subset (List.mem_reverse.1 mem))
  exact noSlash n ((List.dropWhile_sublist _).subset kept)

/-- Pieces joined behind a slash have a root and then their components. -/
lemma components_slash_intercalate (noSlash : ∀ n ∈ names, '/' ∉ n.toList) (some : names ≠ []) :
    components ("/" ++ "/".intercalate names) = .root :: names.filterMap component? := by
  have split : pieces ("/" ++ "/".intercalate names) = "" :: names := by
    have behind := pieces_append "" ("/".intercalate names)
    rw [String.empty_append, pieces_intercalate noSlash some] at behind
    exact behind
  unfold components
  rw [split]
  cases names with
  | nil => exact absurd rfl some
  | cons n names => rfl

/-- Pieces joined behind a dot have the dot and then their components. -/
lemma components_here_intercalate (noSlash : ∀ n ∈ names, '/' ∉ n.toList) :
    components ("/".intercalate ("." :: names)) = .here :: names.filterMap component? := by
  have split : pieces ("/".intercalate ("." :: names)) = "." :: names :=
    pieces_intercalate (List.forall_mem_cons.2 ⟨by decide, noSlash⟩) (List.cons_ne_nil _ _)
  unfold components
  rw [split]
  rfl

/-- Pieces of which the first stands for a component have just their components. -/
lemma components_intercalate (noSlash : ∀ n ∈ names, '/' ∉ n.toList)
    (visible : ∀ n ∈ names.head?, isIdle n = false) :
    components ("/".intercalate names) = names.filterMap component? := by
  cases names with
  | nil => rfl
  | cons n names =>
    have first := visible n rfl
    have split : pieces ("/".intercalate (n :: names)) = n :: names :=
      pieces_intercalate noSlash (List.cons_ne_nil _ _)
    unfold components
    rw [split]
    split
    case h_1 e =>
      obtain ⟨rfl, _⟩ := List.cons.inj e
      cases first
    case h_2 e =>
      obtain ⟨rfl, _⟩ := List.cons.inj e
      cases first
    case h_3 => rfl

/-- What is above a path: nothing if it has no components or only a root, and otherwise what has all
its components but the last. -/
def IsParent (path : String) : Option String → Prop
  | none => components path = [] ∨ components path = [.root]
  | some above => ∃ last, last ≠ .root ∧ components path = components above ++ [last]

/-- A path that begins with a slash has a root and the components of what follows. -/
lemma components_of_rooted {rest : List String} (e : pieces path = "" :: piece :: rest) :
    components path = .root :: (piece :: rest).reverse.reverse.filterMap component? := by
  unfold components
  rw [e, List.reverse_reverse]
  rfl

/-- A path that begins with a dot has the dot and the components of what follows. -/
lemma components_of_here {rest : List String} (e : pieces path = "." :: rest) :
    components path = .here :: rest.reverse.reverse.filterMap component? := by
  unfold components
  rw [e, List.reverse_reverse]
  rfl

/-- A path that begins with neither has the components of its pieces. -/
lemma components_of_relative (notRooted : ∀ piece rest, pieces path ≠ "" :: piece :: rest)
    (notHere : ∀ rest, pieces path ≠ "." :: rest) :
    components path = (pieces path).reverse.reverse.filterMap component? := by
  rw [List.reverse_reverse]
  unfold components
  split
  case h_1 e => exact absurd e (notRooted _ _)
  case h_2 e => exact absurd e (notHere _)
  case h_3 => rfl

/-- Pieces of a path have no slashes, in whatever order. -/
lemma slash_not_mem_reverse (sub : names ⊆ pieces path) : ∀ n ∈ names.reverse, '/' ∉ n.toList :=
  fun _ mem => slash_not_mem_of_mem_pieces (sub (List.mem_reverse.1 mem))

/-- What is above a path without a root begins with the same piece as the path, so it has no root
either. -/
lemma visible_of_relative (notRooted : ∀ piece rest, pieces path ≠ "" :: piece :: rest)
    (notHere : ∀ rest, pieces path ≠ "." :: rest)
    (dropped : dropIdle (pieces path).reverse = piece :: before) :
    ∀ n ∈ (dropIdle before).reverse.head?, isIdle n = false := by
  obtain ⟨next, others, split⟩ := exists_eq_append_dropIdle dropped
  intro n first
  obtain ⟨kept, e⟩ := List.head?_eq_some_iff.1 first
  rw [List.reverse_reverse, e, List.cons_append] at split
  rw [← Bool.not_eq_true, isIdle, Bool.or_eq_true, beq_iff_eq, beq_iff_eq]
  rintro (rfl | rfl)
  · cases kept with
    | nil => exact notRooted _ _ split
    | cons => exact notRooted _ _ split
  · exact notHere _ split

/-- The parent of a path is what is above it. -/
lemma isParent_parent? (path : String) : IsParent path (parent? path) := by
  unfold parent?
  -- A path begins with a root, with a dot, or with neither. Each time the last component is taken
  -- off, and what is left is written with its beginning.
  split
  case h_1 piece rest e =>
    have whole := components_of_rooted e
    have noSlash := slash_not_mem_reverse (e ▸ List.subset_cons_self "" (piece :: rest))
    split
    case h_1 nothing =>
      rw [filterMap_of_dropIdle_nil nothing] at whole
      exact .inr whole
    case h_2 last before dropped =>
      obtain ⟨c, notRoot, parts⟩ := filterMap_of_dropIdle_cons dropped
      rw [parts] at whole
      split
      case h_1 nothing =>
        rw [nothing] at whole
        exact ⟨c, notRoot, whole⟩
      case h_2 some =>
        refine ⟨c, notRoot, ?_⟩
        rw [components_slash_intercalate (slash_not_mem_dropIdle noSlash dropped) some]
        exact whole
  case h_2 rest e =>
    have whole := components_of_here e
    have noSlash := slash_not_mem_reverse (e ▸ List.subset_cons_self "." rest)
    split
    case h_1 nothing =>
      rw [filterMap_of_dropIdle_nil nothing] at whole
      exact ⟨.here, Component.noConfusion, whole⟩
    case h_2 last before dropped =>
      obtain ⟨c, notRoot, parts⟩ := filterMap_of_dropIdle_cons dropped
      refine ⟨c, notRoot, ?_⟩
      rw [components_here_intercalate (slash_not_mem_dropIdle noSlash dropped), whole, parts]
      rfl
  case h_3 notRooted notHere =>
    have whole := components_of_relative notRooted notHere
    have noSlash := slash_not_mem_reverse (List.Subset.refl (pieces path))
    split
    case h_1 nothing =>
      rw [filterMap_of_dropIdle_nil nothing] at whole
      exact .inl whole
    case h_2 last before dropped =>
      obtain ⟨c, notRoot, parts⟩ := filterMap_of_dropIdle_cons dropped
      have visible := visible_of_relative notRooted notHere dropped
      refine ⟨c, notRoot, ?_⟩
      rw [components_intercalate (slash_not_mem_dropIdle noSlash dropped) visible, whole, parts]

end ScriptMaps.Path
