import ScriptMaps.Syntax.Node

/-!
# Removing statements

A pass over a tree that takes out the statements with a property, wherever they stand. In a list of
statements they are left out before anything below the list is looked at; where a statement has to
stand, an empty one takes the place of a matching one, after what is below it was looked at. The
statements that stay in a list are looked at in the same way.

Every other node is rebuilt from its parts. The lists of statements are those of blocks and of the
cases of a switch; all other lists keep their length.
-/

namespace ScriptMaps.Syntax

/-- What stands for a statement once what is below it was looked at. -/
def sole (p : Node → Bool) (visited : Node) : Node :=
  if p visited then .emptyStmt .nowhere else visited

mutual

/-- Removes the matching statements below a node. -/
def remove (p : Node → Bool) : Node → Node
  | .ident s n => .ident s n
  | .keyName s n => .keyName s n
  | .privateName s n => .privateName s n
  | .computedKey s a => .computedKey s (remove p a)
  | .thisWord s => .thisWord s
  | .superWord s => .superWord s
  | .importWord s phase => .importWord s phase
  | .literal s v => .literal s v
  | .array s as => .array s (removeEach p as)
  | .hole => .hole
  | .object s as => .object s (removeEach p as)
  | .property s a b => .property s (remove p a) (remove p b)
  | .assignedName s a b => .assignedName s (remove p a) (remove p b)
  | .objectMethod s f g key params body =>
    .objectMethod s f g (remove p key) (removeEach p params) (remove p body)
  | .objectGetter s key body => .objectGetter s (remove p key) (remove p body)
  | .objectSetter s key param body =>
    .objectSetter s (remove p key) (remove p param) (remove p body)
  | .spreadMember s d a => .spreadMember s d (remove p a)
  | .spreadArg s d a => .spreadArg s d (remove p a)
  | .functionDef s f g name params body =>
    .functionDef s f g (removeOption p name) (removeEach p params) (remove p body)
  | .arrow s f params body => .arrow s f (removeEach p params) (remove p body)
  | .classDef s name parent members =>
    .classDef s (removeOption p name) (removeOption p parent) (removeEach p members)
  | .unary s o a => .unary s o (remove p a)
  | .update s o f a => .update s o f (remove p a)
  | .binary s o a b => .binary s o (remove p a) (remove p b)
  | .assign s o a b => .assign s o (remove p a) (remove p b)
  | .conditional s a b c => .conditional s (remove p a) (remove p b) (remove p c)
  | .sequence s as => .sequence s (removeEach p as)
  | .call s a as => .call s (remove p a) (removeEach p as)
  | .construct s a f as => .construct s (remove p a) f (removeEach p as)
  | .member s a b => .member s (remove p a) (remove p b)
  | .chainMember s f a b => .chainMember s f (remove p a) (remove p b)
  | .chainCall s f a as => .chainCall s f (remove p a) (removeEach p as)
  | .template s as => .template s (removeEach p as)
  | .templatePart s t => .templatePart s t
  | .taggedTemplate s a b => .taggedTemplate s (remove p a) (remove p b)
  | .yieldExpr s f a => .yieldExpr s f (removeOption p a)
  | .awaitExpr s a => .awaitExpr s (remove p a)
  | .paren s a => .paren s (remove p a)
  | .newTarget s => .newTarget s
  | .importMeta s => .importMeta s
  | .arrayPattern s as => .arrayPattern s (removeEach p as)
  | .objectPattern s as => .objectPattern s (removeEach p as)
  | .defaultPattern s a b => .defaultPattern s (remove p a) (remove p b)
  | .restPattern s d a => .restPattern s d (remove p a)
  | .propertyPattern s a b => .propertyPattern s (remove p a) (remove p b)
  | .namePattern s a b => .namePattern s (remove p a) (removeOption p b)
  | .param s a => .param s (remove p a)
  | .classConstructor s params body => .classConstructor s (removeEach p params) (remove p body)
  | .classMethod s i k f g key params body =>
    .classMethod s i k f g (remove p key) (removeEach p params) (remove p body)
  | .field s i key a => .field s i (remove p key) (removeOption p a)
  | .staticBlock s a => .staticBlock s (remove p a)
  | .exprStmt s a => .exprStmt s (remove p a)
  | .block s as => .block s (removeFrom p as)
  | .emptyStmt s => .emptyStmt s
  | .debuggerStmt s => .debuggerStmt s
  | .withStmt s a b => .withStmt s (remove p a) (sole p (remove p b))
  | .returnStmt s a => .returnStmt s (removeOption p a)
  | .labeledStmt s a b => .labeledStmt s (remove p a) (sole p (remove p b))
  | .breakStmt s a => .breakStmt s (removeOption p a)
  | .continueStmt s a => .continueStmt s (removeOption p a)
  | .ifStmt s a b c =>
    .ifStmt s (remove p a) (sole p (remove p b)) ((removeOption p c).map (sole p))
  | .switchStmt s a as => .switchStmt s (remove p a) (removeEach p as)
  | .switchCase s a as => .switchCase s (removeOption p a) (removeFrom p as)
  | .throwStmt s a => .throwStmt s (remove p a)
  | .tryStmt s a b c => .tryStmt s (remove p a) (removeOption p b) (removeOption p c)
  | .catchClause s a b => .catchClause s (removeOption p a) (remove p b)
  | .whileStmt s a b => .whileStmt s (remove p a) (sole p (remove p b))
  | .doWhileStmt s a b => .doWhileStmt s (sole p (remove p a)) (remove p b)
  | .forStmt s a b c d =>
    .forStmt s (removeOption p a) (removeOption p b) (removeOption p c) (sole p (remove p d))
  | .forInStmt s a b c => .forInStmt s (remove p a) (remove p b) (sole p (remove p c))
  | .forOfStmt s f a b c => .forOfStmt s f (remove p a) (remove p b) (sole p (remove p c))
  | .variableDecl s k as => .variableDecl s k (removeEach p as)
  | .declarator s a b => .declarator s (remove p a) (removeOption p b)
  | .importDecl s phase as a b =>
    .importDecl s phase (removeEach p as) (remove p a) (removeOption p b)
  | .importDefault s a => .importDefault s (remove p a)
  | .importNamespace s a => .importNamespace s (remove p a)
  | .importName s a b => .importName s (removeOption p a) (remove p b)
  | .exportDecl s a => .exportDecl s (remove p a)
  | .exportNames s as a b =>
    .exportNames s (removeEach p as) (removeOption p a) (removeOption p b)
  | .exportNamespace s a => .exportNamespace s (remove p a)
  | .exportName s a b => .exportName s (remove p a) (removeOption p b)
  | .exportAll s a b => .exportAll s (remove p a) (removeOption p b)
  | .exportDefaultExpr s a => .exportDefaultExpr s (remove p a)
  | .exportDefaultDecl s a => .exportDefaultDecl s (remove p a)
  | .element s name as f bs closing =>
    .element s (remove p name) (removeEach p as) f (removeEach p bs) (removeOption p closing)
  | .fragment s as => .fragment s (removeEach p as)
  | .markupText s t => .markupText s t
  | .markupExpr s a => .markupExpr s (remove p a)
  | .markupEmpty s => .markupEmpty s
  | .markupSpread s a => .markupSpread s (remove p a)
  | .markupAttribute s a b => .markupAttribute s (remove p a) (removeOption p b)
  | .dottedName s a b => .dottedName s (remove p a) (remove p b)
  | .colonName s a b => .colonName s (remove p a) (remove p b)
  | .invalid s => .invalid s

/-- Removes the matching statements below each node of a list. -/
def removeEach (p : Node → Bool) : List Node → List Node
  | [] => []
  | a :: as => remove p a :: removeEach p as

/-- Removes the matching statements of a list, and those below the others. -/
def removeFrom (p : Node → Bool) : List Node → List Node
  | [] => []
  | a :: as => if p a then removeFrom p as else sole p (remove p a) :: removeFrom p as

/-- Removes the matching statements below a node if there is one. -/
def removeOption (p : Node → Bool) : Option Node → Option Node
  | none => none
  | some a => some (remove p a)

end

/-- Removes the matching statements of a module. -/
def Module.remove (p : Node → Bool) (m : Module) : Module :=
  { m with items := removeFrom p m.items }

/-- Whether a statement stops a debugger. -/
def Node.isDebugger : Node → Bool
  | .debuggerStmt _ => true
  | _ => false

/-- Whether a statement does nothing but call a member of what is named `console`. -/
def Node.isConsoleCall : Node → Bool
  | .exprStmt _ (.call _ (.member _ (.ident _ name) _) _) => name == "console"
  | _ => false

end ScriptMaps.Syntax
