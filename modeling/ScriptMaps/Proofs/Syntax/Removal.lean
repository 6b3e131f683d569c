import ScriptMaps.Plugins.Plugin
import ScriptMaps.Proofs.Syntax.Parts

/-!
# Removal

What the passes of the plugins make of a module. `Cleared` relates a tree to what is left of it: in
each list of statements the matching ones are gone, in each place for one statement an empty one
stands for a matching one, and everything else is as it was, its parts cleared in their turn. The
pass of a plugin that comes with the library gives the one module that is related to the module it
is run over, and no matching statement stands anywhere in it.

A pass tests the statements of a list before it looks below them and the others after it did. Both
give the same because what such a plugin matches is told by the outermost nodes of a statement,
which `remove` keeps (`Steady`).
-/

namespace ScriptMaps.Syntax

variable {p : Node → Bool} {n : Node} {as : List Node}

/-! ## What a pass does to the parts of a node -/

/-- Removing below each node of a list. -/
lemma removeEach_eq_map : removeEach p as = as.map (remove p) := by
  induction as with
  | nil => rfl
  | cons a as ih => simp [removeEach, ih]

/-- Removing below an optional node. -/
lemma removeOption_eq_map {a : Option Node} : removeOption p a = a.map (remove p) := by
  cases a <;> rfl

/-- A list of statements loses the matching ones before the others are looked at. -/
lemma removeFrom_eq_map :
    removeFrom p as = (as.filter (!p ·)).map fun a => sole p (remove p a) := by
  induction as with
  | nil => rfl
  | cons a as ih => cases h : p a <;> simp [removeFrom, h, ih]

/-- What a pass makes of the parts of a node. -/
def removing (p : Node → Bool) : PartMap where
  part := remove p
  sole b := sole p (remove p b)
  list as := (as.filter (!p ·)).map fun a => sole p (remove p a)

/-- A pass rebuilds a node from what it makes of the parts. -/
lemma remove_eq_mapParts (p : Node → Bool) (n : Node) : remove p n = n.mapParts (removing p) := by
  cases n with
  | ifStmt =>
    simp only [remove, Node.mapParts, removing, removeOption_eq_map, Option.map_map]
    rfl
  | _ =>
    simp only [remove, Node.mapParts, removing, removeEach_eq_map, removeOption_eq_map,
      removeFrom_eq_map]

/-! ## No matching statement is left -/

/-- A statement that was looked at and stays does not match. -/
lemma matches_sole (empty : p (.emptyStmt .nowhere) = false) : p (sole p n) = false := by
  cases h : p n <;> simp [sole, h, empty]

/-- The statements directly below what a pass leaves do not match. -/
lemma matches_statements_remove (empty : p (.emptyStmt .nowhere) = false) :
    ∀ s ∈ (remove p n).statements, p s = false := by
  rw [remove_eq_mapParts]
  apply Node.forall_statements_mapParts
  · intro b
    exact matches_sole empty
  · intro as s h
    obtain ⟨a, -, rfl⟩ := List.mem_map.1 h
    exact matches_sole empty

/-- The parts of what a pass leaves were left by it of parts, or are empty statements. -/
lemma children_remove :
    ∀ c ∈ (remove p n).children, (∃ b ∈ n.children, c = remove p b) ∨ c = .emptyStmt .nowhere := by
  have left (b : Node) (h : b ∈ n.children) :
      (∃ c ∈ n.children, sole p (remove p b) = remove p c) ∨
        sole p (remove p b) = .emptyStmt .nowhere := by
    cases e : p (remove p b)
    · exact .inl ⟨b, h, by simp [sole, e]⟩
    · exact .inr (by simp [sole, e])
  -- What is left of a part is either the part without what is removed or the empty statement.
  rw [remove_eq_mapParts]
  apply Node.forall_children_mapParts
  · intro b h
    exact .inl ⟨b, h, rfl⟩
  · exact left
  · intro as below c h
    obtain ⟨a, mem, rfl⟩ := List.mem_map.1 h
    exact left a (below (List.mem_of_mem_filter mem))

/-- No statement below what a pass leaves matches. -/
lemma not_matches_of_holds {s : Node} (empty : p (.emptyStmt .nowhere) = false)
    (h : (remove p n).Holds s) : p s = false := by
  generalize e : remove p n = m at h
  induction h generalizing n with
  | here h =>
    subst e
    exact matches_statements_remove empty _ h
  | deeper h below ih =>
    subst e
    obtain ⟨b, -, rfl⟩ | rfl := children_remove _ h
    · exact ih rfl
    · cases below with
      | here h => cases h
      | deeper h _ => cases h

/-! ## What is left of a tree -/

/-- What becomes of the parts of a node that is cleared: a matching statement gives its place to an
empty one or goes from its list, and the others become what `f` says. -/
def clearing (p : Node → Bool) (f : Node → Node) : PartMap where
  part := f
  sole b := if p b then .emptyStmt .nowhere else f b
  list as := (as.filter (!p ·)).map f

/-- One tree is what is left of another once the matching statements are cleared away. -/
inductive Cleared (p : Node → Bool) : Node → Node → Prop where
  | parts {n : Node} {f : Node → Node} :
    (∀ c ∈ n.children, Cleared p c (f c)) →
    Cleared p n (n.mapParts (clearing p f))

/-- One module is what is left of another. -/
structure Module.Cleared (p : Node → Bool) (before after : Module) : Prop where
  span : after.span = before.span
  interpreter : after.interpreter = before.interpreter
  items : List.Forall₂ (Syntax.Cleared p) (before.items.filter (!p ·)) after.items

/-- Only one tree is left of a tree. -/
lemma Cleared.unique {a b : Node} (h : Cleared p n a) (k : Cleared p n b) : a = b := by
  induction h generalizing b with
  | @parts n f _ ih =>
    cases k with
    | @parts _ g k =>
      have same : ∀ c ∈ n.children, f c = g c := fun c h => ih c h (k c h)
      apply Node.mapParts_congr same
      · intro c h
        simp only [clearing, same c h]
      · intro as h
        apply List.map_congr_left
        intro a ha
        exact same a (h (List.mem_of_mem_filter ha))

/-- Only one module is left of a module. -/
lemma Module.Cleared.unique {m a b : Module} (h : m.Cleared p a) (k : m.Cleared p b) : a = b := by
  have same {before as bs : List Node} (hs : List.Forall₂ (Syntax.Cleared p) before as)
      (ks : List.Forall₂ (Syntax.Cleared p) before bs) : as = bs := by
    induction hs generalizing bs with
    | nil => cases ks; rfl
    | cons h _ ih =>
      cases ks with
      | cons k ks => rw [h.unique k, ih ks]
  cases a
  cases b
  simp only [Module.mk.injEq]
  exact ⟨h.span.trans k.span.symm, h.interpreter.trans k.interpreter.symm, same h.items k.items⟩

/-! ## What the plugins match -/

/-- Whether a statement matches is not changed by what is removed below it. -/
def Steady (p : Node → Bool) : Prop := ∀ (q : Node → Bool) (n : Node), p (remove q n) = p n

/-- Removal below a statement makes it neither stop a debugger nor cease to. -/
lemma isDebugger_steady : Steady Node.isDebugger := by
  intro q n
  cases n <;> rfl

/-- Removal below a statement makes it neither a call of `console` nor something else. -/
lemma isConsoleCall_steady : Steady Node.isConsoleCall := by
  intro q n
  cases n with
  | exprStmt _ a =>
    cases a with
    | call _ callee _ =>
      cases callee with
      | member _ object _ => cases object <;> rfl
      | _ => rfl
    | _ => rfl
  | _ => rfl

/-- A statement that stays in its list stays as it is left. -/
lemma Steady.sole_of_not_matches (steady : Steady p) (h : p n = false) :
    sole p (remove p n) = remove p n := by
  simp [sole, steady p n, h]

/-- Testing before and after what is below was looked at comes to the same. -/
lemma Steady.removing_eq_clearing (steady : Steady p) : removing p = clearing p (remove p) := by
  have lists (as : List Node) :
      (as.filter (!p ·)).map (fun a => sole p (remove p a)) =
        (as.filter (!p ·)).map (remove p) := by
    apply List.map_congr_left
    intro a ha
    exact steady.sole_of_not_matches (by simpa using List.of_mem_filter ha)
  unfold removing clearing
  congr 1
  · funext b
    simp only [sole, steady p b]
  · exact funext lists

/-- What a pass leaves of a tree is what is left once the matching statements are cleared away. -/
lemma Steady.cleared_remove (steady : Steady p) (n : Node) : Cleared p n (remove p n) := by
  induction n using Node.children_induction with
  | step n ih =>
    rw [remove_eq_mapParts, steady.removing_eq_clearing]
    exact .parts ih

/-- The items a pass leaves are those that do not match, each as it is left. -/
lemma Steady.items_remove (steady : Steady p) (m : Module) :
    (m.remove p).items = (m.items.filter (!p ·)).map (remove p) := by
  have h := congrArg PartMap.list steady.removing_eq_clearing
  exact removeFrom_eq_map.trans (congrFun h m.items)

/-- What a pass leaves of a module is what is left once the matching statements are cleared away. -/
lemma Steady.module_cleared_remove (steady : Steady p) (m : Module) :
    m.Cleared p (m.remove p) := by
  refine ⟨rfl, rfl, ?_⟩
  rw [steady.items_remove, List.forall₂_map_right_iff, List.forall₂_same]
  intro a _
  exact steady.cleared_remove a

/-- A statement stands somewhere in a module. -/
def Module.Holds (m : Module) (s : Node) : Prop := s ∈ m.items ∨ ∃ i ∈ m.items, i.Holds s

/-- No statement of what a pass leaves of a module matches. -/
lemma Steady.not_matches_of_module_holds {m : Module} {s : Node} (steady : Steady p)
    (empty : p (.emptyStmt .nowhere) = false) (h : (m.remove p).Holds s) : p s = false := by
  simp only [Module.Holds, steady.items_remove, List.mem_map] at h
  obtain ⟨a, ha, rfl⟩ | ⟨_, ⟨a, -, rfl⟩, h⟩ := h
  · rw [steady p a]
    simpa using List.of_mem_filter ha
  · exact not_matches_of_holds empty h

end ScriptMaps.Syntax

namespace ScriptMaps.Plugin

open ScriptMaps.Syntax

variable {p : Plugin}

/-- The plugins that come with the library are steady. -/
lemma steady_of_mem_builtin (h : p ∈ builtin) : Steady p.removes := by
  simp only [builtin, List.mem_cons, List.not_mem_nil, or_false] at h
  obtain rfl | rfl := h
  · exact isDebugger_steady
  · exact isConsoleCall_steady

/-- The plugins that come with the library leave empty statements alone. -/
lemma removes_emptyStmt_of_mem_builtin (h : p ∈ builtin) (s : Span) :
    p.removes (.emptyStmt s) = false := by
  simp only [builtin, List.mem_cons, List.not_mem_nil, or_false] at h
  obtain rfl | rfl := h <;> rfl

/-- The pass of a plugin that comes with the library gives the one module that is left once the
matching statements are cleared away at every depth; no statement of it matches, and its items are
as many as those that did not match. -/
theorem cleared_iff_eq_run (h : p ∈ builtin) (m : Module) :
    (∀ left : Module, m.Cleared p.removes left ↔ left = p.run m) ∧
    (∀ s, (p.run m).Holds s → p.removes s = false) ∧
    (p.run m).items.length = m.items.countP (!p.removes ·) := by
  have steady := steady_of_mem_builtin h
  have cleared : m.Cleared p.removes (p.run m) := steady.module_cleared_remove m
  refine ⟨fun left => ⟨fun k => k.unique cleared, ?_⟩, fun s => ?_, ?_⟩
  · rintro rfl
    exact cleared
  · exact steady.not_matches_of_module_holds (removes_emptyStmt_of_mem_builtin h _)
  · rw [← cleared.items.length_eq, List.countP_eq_length_filter]

/-- In `if (a) debugger; else f(function () { debugger; b; })`, run over by the pass that removes
debugger statements, an empty statement stands for the first and the second is gone. -/
theorem cleared_iff_eq_run_nested :
    let s : Span := ⟨1, 2⟩
    let a : Node := .ident s "a"
    let body (stmts : List Node) : Node :=
      .exprStmt s (.call s a [.functionDef s false false none [] (.block s stmts)])
    let before : Module :=
      ⟨s, none, [.ifStmt s a (.debuggerStmt s) (some (body [.debuggerStmt s, .exprStmt s a])),
        .debuggerStmt s]⟩
    let after : Module :=
      ⟨s, none, [.ifStmt s a (.emptyStmt .nowhere) (some (body [.exprStmt s a]))]⟩
    removeDebugger ∈ builtin ∧ before.Cleared removeDebugger.removes after ∧
      after.items.length = 1 := by
  intro s a body before after
  have mem : removeDebugger ∈ builtin := .head _
  exact ⟨mem, ((cleared_iff_eq_run mem before).1 after).2 rfl, rfl⟩

end ScriptMaps.Plugin
