import ScriptMaps.Syntax.Node

/-!
# The parts of a node

A walk over a tree that treats most nodes alike only needs to know what stands directly below each.
-/

namespace ScriptMaps.Syntax.Node

/-- The nodes directly below a node, in the order of the text. -/
def children : Node → List Node
  | ident .. | keyName .. | privateName .. | thisWord .. | superWord .. | importWord .. | literal ..
  | hole | templatePart .. | newTarget .. | importMeta .. | emptyStmt .. | debuggerStmt ..
  | markupText .. | markupEmpty .. | invalid .. => []
  | computedKey _ a | spreadMember _ _ a | spreadArg _ _ a | unary _ _ a | update _ _ _ a
  | awaitExpr _ a | paren _ a | restPattern _ _ a | param _ a | staticBlock _ a | exprStmt _ a
  | throwStmt _ a | importDefault _ a | importNamespace _ a | exportDecl _ a
  | exportNamespace _ a | exportDefaultExpr _ a | exportDefaultDecl _ a
  | markupExpr _ a | markupSpread _ a => [a]
  | property _ a b | assignedName _ a b | objectGetter _ a b | binary _ _ a b | assign _ _ a b
  | member _ a b | chainMember _ _ a b | taggedTemplate _ a b | defaultPattern _ a b
  | propertyPattern _ a b | withStmt _ a b | labeledStmt _ a b | whileStmt _ a b
  | doWhileStmt _ a b | dottedName _ a b | colonName _ a b => [a, b]
  | objectSetter _ a b c | conditional _ a b c | forInStmt _ a b c | forOfStmt _ _ a b c =>
    [a, b, c]
  | array _ as | object _ as | sequence _ as | arrayPattern _ as | objectPattern _ as | block _ as
  | variableDecl _ _ as | template _ as | fragment _ as => as
  | objectMethod _ _ _ key params body => key :: params ++ [body]
  | functionDef _ _ _ name params body => name.toList ++ params ++ [body]
  | arrow _ _ params body => params ++ [body]
  | classDef _ name superClass members => name.toList ++ superClass.toList ++ members
  | call _ a as | construct _ a _ as | chainCall _ _ a as | switchStmt _ a as => a :: as
  | yieldExpr _ _ a | returnStmt _ a | breakStmt _ a | continueStmt _ a => a.toList
  | namePattern _ a b | field _ _ a b | declarator _ a b | exportName _ a b | exportAll _ a b
  | markupAttribute _ a b => a :: b.toList
  | classConstructor _ params body => params ++ [body]
  | classMethod _ _ _ _ _ key params body => key :: params ++ [body]
  | ifStmt _ test yes no => test :: yes :: no.toList
  | switchCase _ test stmts => test.toList ++ stmts
  | tryStmt _ body handler finalizer => body :: handler.toList ++ finalizer.toList
  | catchClause _ target body => target.toList ++ [body]
  | forStmt _ first test step body => first.toList ++ test.toList ++ step.toList ++ [body]
  | importDecl _ _ specifiers source attributes => specifiers ++ source :: attributes.toList
  | importName _ imported name => imported.toList ++ [name]
  | exportNames _ specifiers source attributes =>
    specifiers ++ source.toList ++ attributes.toList
  | element _ name attributes _ children closing =>
    name :: attributes ++ children ++ closing.toList

end ScriptMaps.Syntax.Node
