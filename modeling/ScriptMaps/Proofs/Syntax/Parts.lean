import ScriptMaps.Syntax.Children
import Mathlib.Tactic

/-!
# Parts of nodes

A pass over a tree rebuilds each node from its parts and keeps the rest of it. A part is held in one
of three ways: it is any node, it is a statement in a place that must hold one, or it belongs to a
list of statements. `Node.mapParts` rebuilds a node with one function for each way, and nothing else
of the node can change. `Node.Holds` says that a statement stands somewhere below a node, in a place
that must hold one or in a list, whatever lies between.
-/

namespace ScriptMaps.Syntax

/-- What becomes of the parts of a node. -/
structure PartMap where
  /-- What becomes of a part that is no statement of a list and in no place for one. -/
  part : Node → Node
  /-- What becomes of a statement in a place that must hold one. -/
  sole : Node → Node
  /-- What becomes of a list of statements. -/
  list : List Node → List Node

/-- What becomes of parts that change twice. -/
def PartMap.andThen (v w : PartMap) : PartMap where
  part b := w.part (v.part b)
  sole b := w.sole (v.sole b)
  list as := w.list (v.list as)

namespace Node

/-- A node with other parts. -/
def mapParts (w : PartMap) : Node → Node
  | computedKey s a => computedKey s (w.part a)
  | array s as => array s (as.map w.part)
  | object s as => object s (as.map w.part)
  | property s a b => property s (w.part a) (w.part b)
  | assignedName s a b => assignedName s (w.part a) (w.part b)
  | objectMethod s f g key params body =>
    objectMethod s f g (w.part key) (params.map w.part) (w.part body)
  | objectGetter s key body => objectGetter s (w.part key) (w.part body)
  | objectSetter s key target body => objectSetter s (w.part key) (w.part target) (w.part body)
  | spreadMember s d a => spreadMember s d (w.part a)
  | spreadArg s d a => spreadArg s d (w.part a)
  | functionDef s f g name params body =>
    functionDef s f g (name.map w.part) (params.map w.part) (w.part body)
  | arrow s f params body => arrow s f (params.map w.part) (w.part body)
  | classDef s name parent members =>
    classDef s (name.map w.part) (parent.map w.part) (members.map w.part)
  | unary s o a => unary s o (w.part a)
  | update s o f a => update s o f (w.part a)
  | binary s o a b => binary s o (w.part a) (w.part b)
  | assign s o a b => assign s o (w.part a) (w.part b)
  | conditional s a b c => conditional s (w.part a) (w.part b) (w.part c)
  | sequence s as => sequence s (as.map w.part)
  | call s a as => call s (w.part a) (as.map w.part)
  | construct s a f as => construct s (w.part a) f (as.map w.part)
  | member s a b => member s (w.part a) (w.part b)
  | chainMember s f a b => chainMember s f (w.part a) (w.part b)
  | chainCall s f a as => chainCall s f (w.part a) (as.map w.part)
  | template s as => template s (as.map w.part)
  | taggedTemplate s a b => taggedTemplate s (w.part a) (w.part b)
  | yieldExpr s f a => yieldExpr s f (a.map w.part)
  | awaitExpr s a => awaitExpr s (w.part a)
  | paren s a => paren s (w.part a)
  | arrayPattern s as => arrayPattern s (as.map w.part)
  | objectPattern s as => objectPattern s (as.map w.part)
  | defaultPattern s a b => defaultPattern s (w.part a) (w.part b)
  | restPattern s d a => restPattern s d (w.part a)
  | propertyPattern s a b => propertyPattern s (w.part a) (w.part b)
  | namePattern s a b => namePattern s (w.part a) (b.map w.part)
  | param s a => param s (w.part a)
  | classConstructor s params body => classConstructor s (params.map w.part) (w.part body)
  | classMethod s i k f g key params body =>
    classMethod s i k f g (w.part key) (params.map w.part) (w.part body)
  | field s i key a => field s i (w.part key) (a.map w.part)
  | staticBlock s a => staticBlock s (w.part a)
  | exprStmt s a => exprStmt s (w.part a)
  | block s as => block s (w.list as)
  | withStmt s a b => withStmt s (w.part a) (w.sole b)
  | returnStmt s a => returnStmt s (a.map w.part)
  | labeledStmt s a b => labeledStmt s (w.part a) (w.sole b)
  | breakStmt s a => breakStmt s (a.map w.part)
  | continueStmt s a => continueStmt s (a.map w.part)
  | ifStmt s a b c => ifStmt s (w.part a) (w.sole b) (c.map w.sole)
  | switchStmt s a as => switchStmt s (w.part a) (as.map w.part)
  | switchCase s a as => switchCase s (a.map w.part) (w.list as)
  | throwStmt s a => throwStmt s (w.part a)
  | tryStmt s a b c => tryStmt s (w.part a) (b.map w.part) (c.map w.part)
  | catchClause s a b => catchClause s (a.map w.part) (w.part b)
  | whileStmt s a b => whileStmt s (w.part a) (w.sole b)
  | doWhileStmt s a b => doWhileStmt s (w.sole a) (w.part b)
  | forStmt s a b c d => forStmt s (a.map w.part) (b.map w.part) (c.map w.part) (w.sole d)
  | forInStmt s a b c => forInStmt s (w.part a) (w.part b) (w.sole c)
  | forOfStmt s f a b c => forOfStmt s f (w.part a) (w.part b) (w.sole c)
  | variableDecl s k as => variableDecl s k (as.map w.part)
  | declarator s a b => declarator s (w.part a) (b.map w.part)
  | importDecl s phase as a b => importDecl s phase (as.map w.part) (w.part a) (b.map w.part)
  | importDefault s a => importDefault s (w.part a)
  | importNamespace s a => importNamespace s (w.part a)
  | importName s a b => importName s (a.map w.part) (w.part b)
  | exportDecl s a => exportDecl s (w.part a)
  | exportNames s as a b => exportNames s (as.map w.part) (a.map w.part) (b.map w.part)
  | exportNamespace s a => exportNamespace s (w.part a)
  | exportName s a b => exportName s (w.part a) (b.map w.part)
  | exportAll s a b => exportAll s (w.part a) (b.map w.part)
  | exportDefaultExpr s a => exportDefaultExpr s (w.part a)
  | exportDefaultDecl s a => exportDefaultDecl s (w.part a)
  | element s name as f bs closing =>
    element s (w.part name) (as.map w.part) f (bs.map w.part) (closing.map w.part)
  | fragment s as => fragment s (as.map w.part)
  | markupExpr s a => markupExpr s (w.part a)
  | markupSpread s a => markupSpread s (w.part a)
  | markupAttribute s a b => markupAttribute s (w.part a) (b.map w.part)
  | dottedName s a b => dottedName s (w.part a) (w.part b)
  | colonName s a b => colonName s (w.part a) (w.part b)
  | n => n

/-- The statements directly below a node: those of its list and those in places for one. -/
def statements : Node → List Node
  | block _ as | switchCase _ _ as => as
  | withStmt _ _ b | labeledStmt _ _ b | whileStmt _ _ b | doWhileStmt _ b _ | forInStmt _ _ _ b
  | forOfStmt _ _ _ _ b | forStmt _ _ _ _ b => [b]
  | ifStmt _ _ b c => b :: c.toList
  | _ => []

/-- A statement stands somewhere below a node. -/
inductive Holds : Node → Node → Prop where
  | here {n s} : s ∈ n.statements → Holds n s
  | deeper {n c s} : c ∈ n.children → Holds c s → Holds n s

/-- What a node has if all its parts have it, every node has. -/
lemma children_induction {P : Node → Prop} (step : ∀ n, (∀ c ∈ n.children, P c) → P n)
    (n : Node) : P n := by
  apply @Node.rec P (fun as => ∀ c ∈ as, P c) (fun a => ∀ c ∈ a.toList, P c)
  case nil | none => nofun
  case cons =>
    intro a as h hs
    exact List.forall_mem_cons.2 ⟨h, hs⟩
  case some =>
    intro a h
    exact List.forall_mem_singleton.2 h
  all_goals
    intros
    apply step
    simp only [children, List.forall_mem_cons, List.forall_mem_append, List.cons_append]
    and_intros <;> first | assumption | nofun

/-- What is true of all that the parts of a node become is true of the parts of the rebuilt node. -/
lemma forall_children_mapParts {w : PartMap} {P : Node → Prop} {n : Node}
    (part : ∀ b ∈ n.children, P (w.part b)) (sole : ∀ b ∈ n.children, P (w.sole b))
    (list : ∀ as ⊆ n.children, ∀ c ∈ w.list as, P c) : ∀ c ∈ (n.mapParts w).children, P c := by
  cases n with
  | block _ as => exact list as (fun c h => h)
  | switchCase _ test as =>
    simp only [mapParts, children, List.forall_mem_append]
    exact ⟨by simp_all [children], list as (fun c h => by simp [children, h])⟩
  | _ =>
    clear list
    intro c h
    simp only [mapParts, children, List.mem_cons, List.mem_append, List.not_mem_nil, or_false,
      List.mem_map, Option.mem_toList, Option.map_eq_some_iff] at h part sole <;> grind

/-- A part that becomes the same wherever it is held is a part of the rebuilt node. -/
lemma mem_children_mapParts {w : PartMap} {c d n : Node} (part : w.part c = d) (sole : w.sole c = d)
    (list : ∀ as, c ∈ as → d ∈ w.list as) (h : c ∈ n.children) : d ∈ (n.mapParts w).children := by
  cases n with
  | block _ as => exact list as h
  | switchCase _ test as =>
    simp only [mapParts, children, List.mem_append] at h ⊢
    exact h.imp (fun h => by simp_all) (list as)
  | _ =>
    clear list
    simp only [mapParts, children, List.mem_cons, List.mem_append, List.not_mem_nil, or_false,
      List.mem_map, Option.mem_toList, Option.map_eq_some_iff] at h ⊢ <;> grind

/-- What is true of all that statements become is true of the statements of a rebuilt node. -/
lemma forall_statements_mapParts {w : PartMap} {P : Node → Prop} (sole : ∀ b, P (w.sole b))
    (list : ∀ as, ∀ c ∈ w.list as, P c) (n : Node) :
    ∀ c ∈ (n.mapParts w).statements, P c := by
  cases n with
  | block _ as | switchCase _ _ as => exact list as
  | _ => simp [mapParts, statements, or_imp, forall_and, sole]

/-- How a node is rebuilt is told by what becomes of its own parts. -/
lemma mapParts_congr {v w : PartMap} {n : Node} (part : ∀ c ∈ n.children, v.part c = w.part c)
    (sole : ∀ c ∈ n.children, v.sole c = w.sole c)
    (list : ∀ as ⊆ n.children, v.list as = w.list as) : n.mapParts v = n.mapParts w := by
  have each (as : List Node) (h : ∀ c ∈ as, v.part c = w.part c) : as.map v.part = as.map w.part :=
    List.map_congr_left h
  have option (f g : Node → Node) (o : Option Node) (h : ∀ c ∈ o.toList, f c = g c) :
      o.map f = o.map g := by
    cases o with
    | none => rfl
    | some a => exact congrArg some (h a List.mem_cons_self)
  -- Only blocks and cases hold a list that is mapped as a whole.
  cases n with
  | block _ as => simp only [mapParts, list as (fun c h => h)]
  | switchCase _ test as =>
    have body := list as (fun c h => by simp [children, h])
    simp only [children, List.forall_mem_append] at part
    simp only [mapParts, option _ _ _ part.1, body]
  | _ =>
    clear list
    simp only [mapParts, children, List.forall_mem_cons, List.forall_mem_append] at part sole ⊢ <;>
      grind

/-- A node rebuilt twice is rebuilt once from what becomes of its parts in the end. -/
lemma mapParts_mapParts (v w : PartMap) (n : Node) :
    (n.mapParts v).mapParts w = n.mapParts (v.andThen w) := by
  cases n <;>
    simp only [mapParts, PartMap.andThen, List.map_map, Option.map_map, Function.comp_def]

/-- A node whose parts stay as they are stays as it is. -/
lemma mapParts_id (n : Node) : n.mapParts ⟨id, id, id⟩ = n := by
  cases n <;> simp only [mapParts, id, List.map_id, Option.map_id]

end Node

end ScriptMaps.Syntax
