import ScriptMaps.Syntax.Operator

/-!
# Syntax trees

One type holds every part of a module: statements, declarations, expressions, patterns and markup.
What a node may hold in which place is the grammar's business; a place that may stay empty is an
`Option`, and an element left out of an array is a `hole`. The parts of a template are its texts and
its expressions in turn. A statement list occurs in exactly three places: the items of a module, the
statements of a `block`, and those of a `switchCase`.
-/

namespace ScriptMaps.Syntax

/-! ## Places

Positions count the characters of a text from 1. Position 0 is nowhere: it belongs to nodes that no
text stands behind, and nothing is ever recorded for it. -/

/-- The characters from `lo` up to, not including, `hi`. -/
structure Span where
  lo : Nat
  hi : Nat
  deriving Repr, DecidableEq, Inhabited

namespace Span

/-- The span of a node that stands for no text. -/
def nowhere : Span := ⟨0, 0⟩

/-- Whether a span stands for no text. -/
def isNowhere (s : Span) : Bool := s.lo == 0 && s.hi == 0

end Span

/-! ## Nodes -/

/-- A node of a syntax tree. -/
inductive Node where
  -- names
  | ident (span : Span) (name : String)
  | keyName (span : Span) (name : String)
  | privateName (span : Span) (name : String)
  | computedKey (span : Span) (expr : Node)
  -- expressions
  | thisWord (span : Span)
  | superWord (span : Span)
  | importWord (span : Span) (phase : Option ImportPhase)
  | literal (span : Span) (value : Literal)
  | array (span : Span) (elems : List Node)
  | hole
  | object (span : Span) (props : List Node)
  | property (span : Span) (key value : Node)
  | assignedName (span : Span) (key value : Node)
  | objectMethod (span : Span) (isAsync isGenerator : Bool) (key : Node) (params : List Node)
      (body : Node)
  | objectGetter (span : Span) (key body : Node)
  | objectSetter (span : Span) (key param body : Node)
  | spreadMember (span dots : Span) (expr : Node)
  | spreadArg (span dots : Span) (expr : Node)
  | functionDef (span : Span) (isAsync isGenerator : Bool) (name : Option Node) (params : List Node)
      (body : Node)
  | arrow (span : Span) (isAsync : Bool) (params : List Node) (body : Node)
  | classDef (span : Span) (name superClass : Option Node) (members : List Node)
  | unary (span : Span) (op : UnaryOp) (arg : Node)
  | update (span : Span) (op : UpdateOp) (isLeading : Bool) (arg : Node)
  | binary (span : Span) (op : BinaryOp) (left right : Node)
  | assign (span : Span) (op : AssignOp) (target value : Node)
  | conditional (span : Span) (test yes no : Node)
  | sequence (span : Span) (exprs : List Node)
  | call (span : Span) (callee : Node) (args : List Node)
  | construct (span : Span) (callee : Node) (hasArgs : Bool) (args : List Node)
  | member (span : Span) (object property : Node)
  | chainMember (span : Span) (isOptional : Bool) (object property : Node)
  | chainCall (span : Span) (isOptional : Bool) (callee : Node) (args : List Node)
  | template (span : Span) (parts : List Node)
  | templatePart (span : Span) (raw : String)
  | taggedTemplate (span : Span) (tag template : Node)
  | yieldExpr (span : Span) (isDelegate : Bool) (arg : Option Node)
  | awaitExpr (span : Span) (arg : Node)
  | paren (span : Span) (expr : Node)
  | newTarget (span : Span)
  | importMeta (span : Span)
  -- patterns
  | arrayPattern (span : Span) (elems : List Node)
  | objectPattern (span : Span) (props : List Node)
  | defaultPattern (span : Span) (target value : Node)
  | restPattern (span dots : Span) (target : Node)
  | propertyPattern (span : Span) (key value : Node)
  | namePattern (span : Span) (key : Node) (value : Option Node)
  | param (span : Span) (pattern : Node)
  -- class members
  | classConstructor (span : Span) (params : List Node) (body : Node)
  | classMethod (span : Span) (isStatic : Bool) (kind : MethodKind) (isAsync isGenerator : Bool)
      (key : Node) (params : List Node) (body : Node)
  | field (span : Span) (isStatic : Bool) (key : Node) (value : Option Node)
  | staticBlock (span : Span) (body : Node)
  -- statements
  | exprStmt (span : Span) (expr : Node)
  | block (span : Span) (stmts : List Node)
  | emptyStmt (span : Span)
  | debuggerStmt (span : Span)
  | withStmt (span : Span) (object body : Node)
  | returnStmt (span : Span) (arg : Option Node)
  | labeledStmt (span : Span) (label body : Node)
  | breakStmt (span : Span) (label : Option Node)
  | continueStmt (span : Span) (label : Option Node)
  | ifStmt (span : Span) (test yes : Node) (no : Option Node)
  | switchStmt (span : Span) (subject : Node) (cases : List Node)
  | switchCase (span : Span) (test : Option Node) (stmts : List Node)
  | throwStmt (span : Span) (arg : Node)
  | tryStmt (span : Span) (body : Node) (handler finalizer : Option Node)
  | catchClause (span : Span) (param : Option Node) (body : Node)
  | whileStmt (span : Span) (test body : Node)
  | doWhileStmt (span : Span) (body test : Node)
  | forStmt (span : Span) (init test update : Option Node) (body : Node)
  | forInStmt (span : Span) (left right body : Node)
  | forOfStmt (span : Span) (isAwait : Bool) (left right body : Node)
  | variableDecl (span : Span) (kind : VariableKind) (decls : List Node)
  | declarator (span : Span) (target : Node) (init : Option Node)
  -- module declarations
  | importDecl (span : Span) (phase : Option ImportPhase) (specifiers : List Node) (source : Node)
      (attributes : Option Node)
  | importDefault (span : Span) (name : Node)
  | importNamespace (span : Span) (name : Node)
  | importName (span : Span) (imported : Option Node) (name : Node)
  | exportDecl (span : Span) (decl : Node)
  | exportNames (span : Span) (specifiers : List Node) (source attributes : Option Node)
  | exportNamespace (span : Span) (name : Node)
  | exportName (span : Span) (name : Node) (exported : Option Node)
  | exportAll (span : Span) (source : Node) (attributes : Option Node)
  | exportDefaultExpr (span : Span) (expr : Node)
  | exportDefaultDecl (span : Span) (decl : Node)
  -- markup
  | element (span : Span) (name : Node) (attributes : List Node) (isSelfClosing : Bool)
      (children : List Node) (closing : Option Node)
  | fragment (span : Span) (children : List Node)
  | markupText (span : Span) (raw : String)
  | markupExpr (span : Span) (expr : Node)
  | markupEmpty (span : Span)
  | markupSpread (span : Span) (expr : Node)
  | markupAttribute (span : Span) (name : Node) (value : Option Node)
  | dottedName (span : Span) (object property : Node)
  | colonName (span : Span) (space name : Node)
  -- what the reader puts where it went on after a fault
  | invalid (span : Span)
  deriving Repr, Inhabited

namespace Node

/-- The text a node stands for. -/
def span : Node → Span
  | ident s _ | keyName s _ | privateName s _ | computedKey s _ | thisWord s | superWord s
  | importWord s _ | literal s _ | array s _ | object s _ | property s _ _ | assignedName s _ _
  | objectMethod s _ _ _ _ _ | objectGetter s _ _ | objectSetter s _ _ _ | spreadMember s _ _
  | spreadArg s _ _ | functionDef s _ _ _ _ _ | arrow s _ _ _ | classDef s _ _ _ | unary s _ _
  | update s _ _ _ | binary s _ _ _ | assign s _ _ _ | conditional s _ _ _ | sequence s _
  | call s _ _ | construct s _ _ _ | member s _ _ | chainMember s _ _ _ | chainCall s _ _ _
  | template s _ | templatePart s _ | taggedTemplate s _ _ | yieldExpr s _ _ | awaitExpr s _
  | paren s _ | newTarget s | importMeta s | arrayPattern s _ | objectPattern s _
  | defaultPattern s _ _ | restPattern s _ _ | propertyPattern s _ _ | namePattern s _ _
  | param s _ | classConstructor s _ _ | classMethod s _ _ _ _ _ _ _ | field s _ _ _
  | staticBlock s _ | exprStmt s _ | block s _ | emptyStmt s | debuggerStmt s | withStmt s _ _
  | returnStmt s _ | labeledStmt s _ _ | breakStmt s _ | continueStmt s _ | ifStmt s _ _ _
  | switchStmt s _ _ | switchCase s _ _ | throwStmt s _ | tryStmt s _ _ _ | catchClause s _ _
  | whileStmt s _ _ | doWhileStmt s _ _ | forStmt s _ _ _ _ | forInStmt s _ _ _
  | forOfStmt s _ _ _ _ | variableDecl s _ _ | declarator s _ _ | importDecl s _ _ _ _
  | importDefault s _ | importNamespace s _ | importName s _ _ | exportDecl s _
  | exportNames s _ _ _ | exportNamespace s _ | exportName s _ _ | exportAll s _ _
  | exportDefaultExpr s _ | exportDefaultDecl s _ | element s _ _ _ _ _ | fragment s _
  | markupText s _ | markupExpr s _ | markupEmpty s | markupSpread s _ | markupAttribute s _ _
  | dottedName s _ _ | colonName s _ _ | invalid s => s
  | hole => .nowhere

/-! ## Directives

A statement list of a module or of a function's body may begin with string literals that stand
alone. They are its directive prologue; the directive `use strict` makes code strict. -/

/-- Whether a statement is a string literal that stands alone. -/
def isDirective : Node → Bool
  | exprStmt _ (literal _ (.str ..)) => true
  | _ => false

/-- Whether a statement is the directive that makes code strict, written without escapes. -/
def isStrictDirective : Node → Bool
  | exprStmt _ (literal _ (.str _ raw)) => raw == "\"use strict\"" || raw == "'use strict'"
  | _ => false

/-- The directives a statement list begins with. -/
def prologue (stmts : List Node) : List Node := stmts.takeWhile isDirective

end Node

/-- A module: the line that names its interpreter, if any, and its items. -/
structure Module where
  span : Span
  interpreter : Option String
  items : List Node
  deriving Repr, Inhabited

end ScriptMaps.Syntax
