import ScriptMaps.Proofs.Syntax.Removal

/-!
# Passes one after the other

Two removals one after the other are one removal of what either of them matches
(`Steady.remove_remove`): the first one neither makes another statement match nor keeps one from
matching, and the empty statements it puts in are left alone by the second. So the passes of a list
of plugins are one removal, and of the list only its set of plugins counts
(`runAll_eq_of_same_members`).
-/

namespace ScriptMaps.Syntax

variable {p q : Node → Bool} {as : List Node}

/-- What either of two properties matches. -/
def either (p q : Node → Bool) (n : Node) : Bool := p n || q n

/-- Two steady properties are steady together. -/
lemma Steady.either (hp : Steady p) (hq : Steady q) : Steady (either p q) := by
  intro r n
  simp only [Syntax.either, hp r n, hq r n]

/-- What matches nothing is steady. -/
lemma steady_nothing : Steady fun _ => false := fun _ _ => rfl

/-- If nothing matches, nothing is removed. -/
lemma remove_nothing (n : Node) : remove (fun _ => false) n = n := by
  induction n using Node.children_induction with
  | step n ih =>
    rw [remove_eq_mapParts, steady_nothing.removing_eq_clearing]
    calc n.mapParts (clearing (fun _ => false) (remove fun _ => false))
      _ = n.mapParts ⟨id, id, id⟩ := by
        apply Node.mapParts_congr
        · exact ih
        · intro c h
          simpa [clearing] using ih c h
        · intro as below
          have same : as.map (remove fun _ => false) = as.map id :=
            List.map_congr_left fun c h => ih c (below h)
          simpa [clearing] using same
      _ = n := n.mapParts_id

/-- Of a list of statements two passes leave those that neither of them matches. -/
lemma Steady.list_clearing_clearing (hq : Steady q)
    (ih : ∀ c ∈ as, remove q (remove p c) = remove (Syntax.either p q) c) :
    (clearing q (remove q)).list ((clearing p (remove p)).list as) =
      (clearing (Syntax.either p q) (remove (Syntax.either p q))).list as := by
  have stays : as.filter (fun c => !q (remove p c) && !p c) = as.filter (!Syntax.either p q ·) := by
    apply List.filter_congr
    intro c _
    rw [hq p c, Syntax.either, Bool.not_or, Bool.and_comm]
  calc (((as.filter (!p ·)).map (remove p)).filter (!q ·)).map (remove q)
    _ = (as.filter (fun c => !q (remove p c) && !p c)).map fun c => remove q (remove p c) := by
      rw [List.filter_map, List.filter_filter, List.map_map]
      rfl
    _ = (as.filter (!Syntax.either p q ·)).map (remove (Syntax.either p q)) := by
      rw [stays]
      apply List.map_congr_left
      intro c h
      exact ih c (List.mem_of_mem_filter h)

/-- In a place for one statement two passes put an empty one for what either of them matches. -/
lemma Steady.sole_clearing_clearing (hq : Steady q) {b : Node}
    (ih : remove q (remove p b) = remove (Syntax.either p q) b) :
    (clearing q (remove q)).sole ((clearing p (remove p)).sole b) =
      (clearing (Syntax.either p q) (remove (Syntax.either p q))).sole b := by
  cases hp : p b with
  | true =>
    -- The empty statement is left alone even by a pass that matches it.
    simp [clearing, Syntax.either, hp, remove]
  | false => simp [clearing, Syntax.either, hp, hq p b, ih]

/-- Two removals one after the other are one of what either of them matches. -/
theorem Steady.remove_remove (hp : Steady p) (hq : Steady q) (n : Node) :
    remove q (remove p n) = remove (Syntax.either p q) n := by
  induction n using Node.children_induction with
  | step n ih =>
    rw [remove_eq_mapParts p, remove_eq_mapParts q, remove_eq_mapParts (Syntax.either p q),
      hp.removing_eq_clearing, hq.removing_eq_clearing, (hp.either hq).removing_eq_clearing,
      Node.mapParts_mapParts]
    apply Node.mapParts_congr
    · exact ih
    · intro c h
      exact hq.sole_clearing_clearing (ih c h)
    · intro as below
      exact hq.list_clearing_clearing fun c h => ih c (below h)

/-- Two passes over a module are one that removes what either of them matches. -/
lemma Steady.module_remove_remove (hp : Steady p) (hq : Steady q) (m : Module) :
    (m.remove p).remove q = m.remove (Syntax.either p q) := by
  have items : ((m.remove p).remove q).items = (m.remove (Syntax.either p q)).items := by
    rw [hq.items_remove, hp.items_remove, (hp.either hq).items_remove]
    exact hq.list_clearing_clearing fun c _ => hp.remove_remove hq c
  exact congrArg (fun items => { m with items := items }) items

/-- A pass that matches nothing leaves a module as it is. -/
lemma module_remove_nothing (m : Module) : m.remove (fun _ => false) = m := by
  have items : (m.remove fun _ => false).items = m.items := by
    rw [steady_nothing.items_remove, Bool.not_false, List.filter_true]
    exact (List.map_congr_left fun c _ => remove_nothing c).trans m.items.map_id
  exact congrArg (fun items => { m with items := items }) items

end ScriptMaps.Syntax

namespace ScriptMaps.Plugin

open ScriptMaps.Syntax

variable {plugins plugins' : List Plugin}

/-- The statements that any of several plugins removes. -/
def anyRemoves (plugins : List Plugin) (n : Node) : Bool := plugins.any (·.removes n)

/-- What any of the plugins that come with the library removes is steady. -/
lemma steady_anyRemoves (builtin : ∀ p ∈ plugins, p ∈ Plugin.builtin) :
    Steady (anyRemoves plugins) := by
  induction plugins with
  | nil => exact steady_nothing
  | cons p plugins ih =>
    obtain ⟨first, others⟩ := List.forall_mem_cons.1 builtin
    exact (steady_of_mem_builtin first).either (ih others)

/-- The passes of plugins are one that removes what any of them does. -/
lemma runAll_eq_remove (builtin : ∀ p ∈ plugins, p ∈ Plugin.builtin) (m : Module) :
    runAll plugins m = m.remove (anyRemoves plugins) := by
  induction plugins generalizing m with
  | nil => exact (module_remove_nothing m).symm
  | cons p plugins ih =>
    obtain ⟨first, others⟩ := List.forall_mem_cons.1 builtin
    calc runAll (p :: plugins) m
      _ = (m.remove p.removes).remove (anyRemoves plugins) := ih others (p.run m)
      _ = m.remove (anyRemoves (p :: plugins)) :=
        (steady_of_mem_builtin first).module_remove_remove (steady_anyRemoves others) m

/-- What any of several plugins removes is told by their set. -/
lemma anyRemoves_congr (same : ∀ p, p ∈ plugins ↔ p ∈ plugins') :
    anyRemoves plugins = anyRemoves plugins' := by
  funext n
  rw [Bool.eq_iff_iff, anyRemoves, anyRemoves, List.any_eq_true, List.any_eq_true]
  simp only [same]

/-- The passes of plugins are told by the set of plugins. -/
lemma runAll_congr (builtin : ∀ p ∈ plugins, p ∈ Plugin.builtin)
    (same : ∀ p, p ∈ plugins ↔ p ∈ plugins') (m : Module) :
    runAll plugins m = runAll plugins' m := by
  rw [runAll_eq_remove builtin, runAll_eq_remove fun p mem => builtin p ((same p).2 mem),
    anyRemoves_congr same]

/-- Two lists of the same plugins that come with the library make the same of a module: that which
is left once the statements that any of them removes are cleared away at every depth. So each pass
may be repeated, and two may change places. -/
theorem runAll_eq_of_same_members (builtin : ∀ p ∈ plugins, p ∈ Plugin.builtin)
    (same : ∀ p, p ∈ plugins ↔ p ∈ plugins') (m : Module) :
    runAll plugins m = runAll plugins' m ∧
    runAll plugins m = m.remove (anyRemoves plugins) ∧
    (∀ left : Module, m.Cleared (anyRemoves plugins) left ↔ left = runAll plugins m) ∧
    (∀ p ∈ Plugin.builtin, p.run (p.run m) = p.run m) ∧
    ∀ p ∈ Plugin.builtin, ∀ q ∈ Plugin.builtin, p.run (q.run m) = q.run (p.run m) := by
  have one := runAll_eq_remove builtin m
  have cleared : m.Cleared (anyRemoves plugins) (runAll plugins m) :=
    one ▸ (steady_anyRemoves builtin).module_cleared_remove m
  refine ⟨runAll_congr builtin same m, one, fun left => ⟨fun k => k.unique cleared, ?_⟩, ?_, ?_⟩
  · rintro rfl
    exact cleared
  · intro p memP
    have repeated : ∀ r, r ∈ [p, p] ↔ r ∈ [p] := by simp
    exact runAll_congr (List.forall_mem_cons.2 ⟨memP, List.forall_mem_singleton.2 memP⟩) repeated m
  · intro p memP q memQ
    have swapped : ∀ r, r ∈ [q, p] ↔ r ∈ [p, q] := by simp [or_comm]
    exact runAll_congr (List.forall_mem_cons.2 ⟨memQ, List.forall_mem_singleton.2 memP⟩) swapped m

/-- In `if (a) debugger; console.log(function () { debugger; a; })` and in a call of `a` with the
same argument, whichever pass comes first and how often it is repeated, an empty statement stands
for the first statement, the second is gone, and the third has lost the statement in its argument.
-/
theorem runAll_eq_of_same_members_nested :
    let s : Span := ⟨1, 2⟩
    let a : Node := .ident s "a"
    let argument (stmts : List Node) : Node := .functionDef s false false none [] (.block s stmts)
    let log : Node := .member s (.ident s "console") (.keyName s "log")
    let full : Node := argument [.debuggerStmt s, .exprStmt s a]
    let before : Module :=
      ⟨s, none, [.ifStmt s a (.debuggerStmt s) none, .exprStmt s (.call s log [full]),
        .exprStmt s (.call s a [full])]⟩
    let after : Module :=
      ⟨s, none, [.ifStmt s a (.emptyStmt .nowhere) none,
        .exprStmt s (.call s a [argument [.exprStmt s a]])]⟩
    let plugins := [removeDebugger, stripConsole, removeDebugger]
    let plugins' := [stripConsole, removeDebugger]
    (∀ p ∈ plugins, p ∈ Plugin.builtin) ∧ (∀ p, p ∈ plugins ↔ p ∈ plugins') ∧
      runAll plugins before = after ∧ runAll plugins' before = after := by
  intro s a argument log full before after plugins plugins'
  have builtin : ∀ p ∈ plugins, p ∈ Plugin.builtin := by simp [plugins, Plugin.builtin]
  have same : ∀ p, p ∈ plugins ↔ p ∈ plugins' := by
    intro p
    simp only [plugins, plugins', List.mem_cons, List.not_mem_nil, or_false]
    tauto
  have made : runAll plugins before = after := rfl
  exact ⟨builtin, same, made, (runAll_eq_of_same_members builtin same before).1.symm.trans made⟩

end ScriptMaps.Plugin
