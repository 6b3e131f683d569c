import ScriptMaps.Proofs.Except
import ScriptMaps.Proofs.Syntax.Passes
import ScriptMaps.Transform.Script
import Mathlib.Data.List.TakeWhile

/-!
# Directives after passes

A directive is one by where it stands: at the beginning of its list, with nothing but other
directives before it. A pass leaves every directive of a module and of a function body, but it may
make new ones, namely of string literals that stand behind statements it removes. The directives
stay the same exactly if the first statement behind them that stays is no string literal
(`directives_runAll_iff`). If it is one, a script that can be read may be transformed to a script
that cannot.
-/

namespace ScriptMaps.Syntax

variable {p : Node → Bool} {n c d : Node} {as : List Node}

namespace Node

/-- The statements of the body of a function; there are none if a node is no function or if the body
is an expression. -/
def bodyStatements : Node → List Node
  | objectMethod _ _ _ _ _ (block _ as) | objectGetter _ _ (block _ as)
  | objectSetter _ _ _ (block _ as) | functionDef _ _ _ _ _ (block _ as)
  | arrow _ _ _ (block _ as) | classConstructor _ _ (block _ as)
  | classMethod _ _ _ _ _ _ _ (block _ as) => as
  | _ => []

/-- A node stands below another one, or is it, and no node in between matches. -/
def Keeps (p : Node → Bool) : Node → Node → Prop :=
  Relation.ReflTransGen fun n c => c ∈ n.children ∧ p c = false

end Node

/-- A node stands in a module, and neither it nor a node that it stands below matches. -/
def Module.Keeps (p : Node → Bool) (m : Module) (n : Node) : Prop :=
  ∃ i ∈ m.items, p i = false ∧ i.Keeps p n

/-- A node stands in a module. -/
def Module.Contains (m : Module) (n : Node) : Prop := ∃ i ∈ m.items, i.Keeps (fun _ => false) n

/-- A string literal stands behind the directives of a list of statements, and before it only
statements that match. -/
def Exposes (p : Node → Bool) (as : List Node) : Prop :=
  ∃ s, (as.dropWhile Node.isDirective).find? (!p ·) = some s ∧ s.isDirective = true

/-- The statements that are left of a list have its directives, and none besides exactly if no
string literal of the list is exposed. -/
structure PrologueKept (p : Node → Bool) (before after : List Node) : Prop where
  begins : Node.prologue before <+: Node.prologue after
  same_iff : Node.prologue after = Node.prologue before ↔ ¬ Exposes p before

/-! ## What stands in a module that is left -/

/-- A part that does not match is left among the parts. -/
lemma Steady.mem_children_remove (steady : Steady p) (h : c ∈ n.children) (stays : p c = false) :
    remove p c ∈ (remove p n).children := by
  rw [remove_eq_mapParts p n, steady.removing_eq_clearing]
  apply Node.mem_children_mapParts rfl _ _ h
  · simp [clearing, stays]
  · intro as mem
    exact List.mem_map_of_mem (List.mem_filter.2 ⟨mem, by simp [stays]⟩)

/-- What stands below a node outside of what is removed is left below what is left of the node. -/
lemma Steady.keeps_remove (steady : Steady p) (h : n.Keeps p c) :
    (remove p n).Keeps (fun _ => false) (remove p c) :=
  h.lift (remove p) fun _ _ step => ⟨steady.mem_children_remove step.1 step.2, rfl⟩

/-- What stands below what is left of a node is left of something below the node, or is an empty
statement. -/
lemma keeps_of_keeps_remove (h : (remove p n).Keeps (fun _ => false) d) :
    (∃ c, n.Keeps (fun _ => false) c ∧ d = remove p c) ∨ d = .emptyStmt .nowhere := by
  induction h with
  | refl => exact .inl ⟨n, .refl, rfl⟩
  | tail _ step ih =>
    obtain ⟨c, below, rfl⟩ | rfl := ih
    · obtain ⟨b, mem, rfl⟩ | empty := children_remove _ step.1
      · exact .inl ⟨b, below.tail ⟨mem, rfl⟩, rfl⟩
      · exact .inr empty
    · exact nomatch step.1

/-- An item that does not match is left among the items. -/
lemma Steady.mem_items_remove (steady : Steady p) {m : Module} (h : n ∈ m.items)
    (stays : p n = false) : remove p n ∈ (m.remove p).items := by
  rw [steady.items_remove]
  exact List.mem_map_of_mem (List.mem_filter.2 ⟨h, by simp [stays]⟩)

/-- What stands in a module outside of what is removed is left in it. -/
lemma Steady.contains_remove (steady : Steady p) {m : Module} (h : m.Keeps p n) :
    (m.remove p).Contains (remove p n) := by
  obtain ⟨i, mem, stays, below⟩ := h
  exact ⟨remove p i, steady.mem_items_remove mem stays, steady.keeps_remove below⟩

/-- What stands in what is left of a module is left of something in it, or is an empty statement. -/
lemma Steady.contains_of_contains_remove (steady : Steady p) {m : Module}
    (h : (m.remove p).Contains d) :
    (∃ c, m.Contains c ∧ d = remove p c) ∨ d = .emptyStmt .nowhere := by
  obtain ⟨i, mem, below⟩ := h
  rw [steady.items_remove] at mem
  obtain ⟨a, stays, rfl⟩ := List.mem_map.1 mem
  refine (keeps_of_keeps_remove below).imp_left fun ⟨c, below, e⟩ => ⟨c, ?_, e⟩
  exact ⟨a, List.mem_of_mem_filter stays, below⟩

/-! ## What is left of a list of statements -/

/-- Whether a statement is a string literal is not changed by what is removed below it. -/
lemma isDirective_remove (p : Node → Bool) (n : Node) :
    (remove p n).isDirective = n.isDirective := by
  cases n with
  | exprStmt _ a => cases a <;> rfl
  | _ => rfl

/-- Nothing is removed below a string literal. -/
lemma remove_eq_of_isDirective (h : n.isDirective = true) : remove p n = n := by
  cases n with
  | exprStmt _ a =>
    cases a with
    | literal => rfl
    | _ => cases h
  | _ => cases h

/-- The directives of statements are those of what is left of each of them. -/
lemma prologue_map_remove (p : Node → Bool) (as : List Node) :
    Node.prologue (as.map (remove p)) = Node.prologue as := by
  have same : Node.isDirective ∘ remove p = Node.isDirective := funext (isDirective_remove p)
  rw [Node.prologue, List.takeWhile_map, same]
  refine (List.map_congr_left fun a mem => ?_).trans (List.map_id _)
  exact remove_eq_of_isDirective (List.mem_takeWhile_imp mem)

/-- The directives of a list of statements are left, and before others come those that string
literals behind them become. -/
lemma Steady.prologue_removeFrom (steady : Steady p)
    (spares : ∀ n, n.isDirective = true → p n = false) (as : List Node) :
    Node.prologue (removeFrom p as) =
      Node.prologue as ++ Node.prologue ((as.dropWhile Node.isDirective).filter (!p ·)) := by
  have lists : removeFrom p as = (as.filter (!p ·)).map (remove p) :=
    removeFrom_eq_map.trans (congrFun (congrArg PartMap.list steady.removing_eq_clearing) as)
  have directives : ∀ d ∈ Node.prologue as, d.isDirective = true :=
    fun d mem => List.mem_takeWhile_imp mem
  have stay : (Node.prologue as).filter (!p ·) = Node.prologue as :=
    List.filter_eq_self.2 fun d mem => by simp [spares d (directives d mem)]
  have split : as.filter (!p ·) =
      Node.prologue as ++ (as.dropWhile Node.isDirective).filter (!p ·) := by
    conv_lhs => rw [← List.takeWhile_append_dropWhile (p := Node.isDirective) (l := as)]
    rw [List.filter_append]
    exact congrArg (· ++ _) stay
  rw [lists, prologue_map_remove, split]
  exact List.takeWhile_append_of_pos directives

/-- No string literal becomes a directive exactly if none is exposed. -/
lemma prologue_eq_nil_iff (p : Node → Bool) (as : List Node) :
    Node.prologue ((as.dropWhile Node.isDirective).filter (!p ·)) = [] ↔ ¬ Exposes p as := by
  have first := @List.head?_filter _ (!p ·) (as.dropWhile Node.isDirective)
  unfold Exposes
  rw [← first]
  cases (as.dropWhile Node.isDirective).filter (!p ·) with
  | nil => simp [Node.prologue]
  | cons s rest => cases h : s.isDirective <;> simp [Node.prologue, h]

/-- What a pass leaves of a list of statements has the directives of the list, and none besides
exactly if no string literal is exposed. -/
lemma Steady.prologueKept_removeFrom (steady : Steady p)
    (spares : ∀ n, n.isDirective = true → p n = false) (as : List Node) :
    PrologueKept p as (removeFrom p as) where
  begins := by
    rw [steady.prologue_removeFrom spares]
    exact List.prefix_append _ _
  same_iff := by
    rw [steady.prologue_removeFrom spares, List.append_right_eq_self]
    exact prologue_eq_nil_iff p as

/-- What is left of a function has for its body what is left of the statements. -/
lemma bodyStatements_remove (p : Node → Bool) (n : Node) :
    (remove p n).bodyStatements = removeFrom p n.bodyStatements := by
  cases n with
  | objectMethod _ _ _ _ _ body | objectGetter _ _ body | objectSetter _ _ _ body
  | functionDef _ _ _ _ _ body | arrow _ _ _ body | classConstructor _ _ body
  | classMethod _ _ _ _ _ _ _ body => cases body <;> rfl
  | _ => rfl

end ScriptMaps.Syntax

namespace ScriptMaps.Plugin

open ScriptMaps.Syntax

variable {plugins : List Plugin}

/-- The plugins that come with the library remove no string literals. -/
lemma anyRemoves_of_isDirective (builtin : ∀ p ∈ plugins, p ∈ Plugin.builtin) {n : Node}
    (h : n.isDirective = true) : anyRemoves plugins n = false := by
  rw [anyRemoves, List.any_eq_false]
  intro p mem
  have known := builtin p mem
  simp only [Plugin.builtin, List.mem_cons, List.not_mem_nil, or_false] at known
  cases n with
  | exprStmt _ a =>
    cases a with
    | literal => obtain rfl | rfl := known <;> exact Bool.false_ne_true
    | _ => cases h
  | _ => cases h

/-- Passes leave the directives of a module and those of its functions, and make no others exactly
where no string literal is exposed: each function that does not stand in a removed statement is left
so, and each function that is left is left so of one of the module. -/
theorem directives_runAll_iff (builtin : ∀ p ∈ plugins, p ∈ Plugin.builtin) (m : Module) :
    let p := anyRemoves plugins
    let left := runAll plugins m
    PrologueKept p m.items left.items ∧
    (∀ f, m.Keeps p f → left.Contains (remove p f) ∧
      PrologueKept p f.bodyStatements (remove p f).bodyStatements) ∧
    ∀ g, left.Contains g →
      (∃ f, m.Contains f ∧ g = remove p f ∧ PrologueKept p f.bodyStatements g.bodyStatements) ∨
        g = .emptyStmt .nowhere := by
  intro p left
  have steady : Steady p := steady_anyRemoves builtin
  have spares : ∀ n : Node, n.isDirective = true → p n = false :=
    fun n h => anyRemoves_of_isDirective builtin h
  have bodies (f : Node) : PrologueKept p f.bodyStatements (remove p f).bodyStatements := by
    rw [bodyStatements_remove]
    exact steady.prologueKept_removeFrom spares f.bodyStatements
  have one : left = m.remove p := runAll_eq_remove builtin m
  rw [one]
  refine ⟨steady.prologueKept_removeFrom spares m.items, fun f kept => ?_, fun g stands => ?_⟩
  · exact ⟨steady.contains_remove kept, bodies f⟩
  · obtain ⟨f, contained, rfl⟩ | empty := steady.contains_of_contains_remove stands
    · exact .inl ⟨f, contained, rfl, bodies f⟩
    · exact .inr empty

/-- In `"a"; debugger; f(function () { debugger; "b"; })` no string literal is exposed among the
items, but one is in the function. -/
theorem directives_runAll_iff_literals :
    let s : Span := ⟨1, 2⟩
    let text (value : String) : Node := .exprStmt s (.literal s (.str [] value))
    let function (as : List Node) : Node := .functionDef s false false none [] (.block s as)
    let call (as : List Node) : Node := .exprStmt s (.call s (.ident s "f") [function as])
    let stmts := [.debuggerStmt s, text "b"]
    let m : Module := ⟨s, none, [text "a", .debuggerStmt s, call stmts]⟩
    let left := runAll builtin m
    (∀ p ∈ builtin, p ∈ builtin) ∧ Node.prologue left.items = [text "a"] ∧
      left.Contains (function [text "b"]) ∧
      Node.prologue stmts = [] ∧
      Node.prologue (function [text "b"]).bodyStatements = [text "b"] := by
  intro s text function call stmts m left
  have all : ∀ p ∈ builtin, p ∈ builtin := fun p mem => mem
  obtain ⟨items, functions, _⟩ := directives_runAll_iff all m
  have hidden : ¬ Exposes (anyRemoves builtin) m.items := by
    rintro ⟨_, ⟨⟩, h⟩
    cases h
  have kept : m.Keeps (anyRemoves builtin) (function stmts) := by
    refine ⟨call stmts, by simp [m], rfl, ?_⟩
    refine .tail (.single ⟨List.mem_singleton_self _, rfl⟩) ⟨?_, rfl⟩
    exact List.mem_cons_of_mem _ List.mem_cons_self
  exact ⟨all, items.same_iff.2 hidden, (functions _ kept).1, rfl, rfl⟩

/-- The script `function f(a = 1) { debugger; "use strict"; }` can be read, and its function has no
directives. Once debugger statements are removed from it, the function is strict by a directive,
which it must not be with such a parameter, and the transformed script cannot be read. -/
theorem exists_strict_directive_exposed :
    let text := "function f(a = 1) \x7b debugger; \"use strict\"; \x7d"
    let code := "function f(a = 1) \x7b\n    \"use strict\";\n\x7d\n"
    let p := removeDebugger.removes
    ∃ m comments output, parseScript "a.js" text = .ok (m, comments) ∧
      (∃ f ∈ m.items, p f = false ∧ Node.prologue f.bodyStatements = [] ∧
        remove p f ∈ (runAll [removeDebugger] m).items ∧
        ∃ d ∈ Node.prologue (remove p f).bodyStatements, d.isStrictDirective = true) ∧
      transformScript [removeDebugger] text {} = .ok output ∧ output.code = code ∧
      parseScript "a.js" code = .error (.parse "a.js" 2 5
        "Illegal 'use strict' directive in function with non-simple parameter list.") := by
  intro text code p
  have becomesStrict : (parseScript "a.js" text).map (fun parsed =>
      decide (∃ f ∈ parsed.1.items, p f = false ∧ Node.prologue f.bodyStatements = [] ∧
        ∃ d ∈ Node.prologue (remove p f).bodyStatements, d.isStrictDirective = true)) =
      .ok true := by
    decide +kernel
  have printed : (transformScript [removeDebugger] text {}).map (·.code) = .ok code := by
    decide +kernel
  have refused : (parseScript "a.js" code).map (fun _ => ()) = .error (.parse "a.js" 2 5
      "Illegal 'use strict' directive in function with non-simple parameter list.") := by
    decide +kernel
  obtain ⟨⟨m, comments⟩, parsed, strict⟩ := Except.map_eq_ok.1 becomesStrict
  obtain ⟨f, mem, stays, none, new⟩ := of_decide_eq_true strict
  obtain ⟨output, transformed, codeEq⟩ := Except.map_eq_ok.1 printed
  have left : remove p f ∈ (runAll [removeDebugger] m).items :=
    isDebugger_steady.mem_items_remove mem stays
  exact ⟨m, comments, output, parsed, ⟨f, mem, stays, none, left, new⟩, transformed, codeEq,
    Except.map_eq_error.1 refused⟩

end ScriptMaps.Plugin
