import ScriptMaps.Syntax.Node

/-!
# How printed code begins and ends

Where a word stands before or after an expression, compact code needs a blank between them only if
the expression begins or ends with a character that could be part of a word.
-/

namespace ScriptMaps.Print

open ScriptMaps.Syntax

/-- Whether a literal begins like a word. -/
def literalStartsWithWord : Literal → Bool
  | .null | .bool _ | .num _ | .bigint _ => true
  | .str .. | .regex .. => false

/-- Whether the code of a node begins like a word. -/
def startsWithWord : Node → Bool
  | .ident .. | .keyName .. | .thisWord _ | .superWord _ | .importWord .. | .functionDef ..
  | .classDef .. | .yieldExpr .. | .awaitExpr .. | .construct .. | .newTarget _ | .importMeta _
  | .invalid _ => true
  | .literal _ value => literalStartsWithWord value
  | .sequence _ (first :: _) => startsWithWord first
  | .assign _ _ left _ | .binary _ _ left _ | .conditional _ left _ _ | .call _ left _
  | .member _ left _ | .chainMember _ _ left _ | .chainCall _ _ left _ | .taggedTemplate _ left _
  | .defaultPattern _ left _ => startsWithWord left
  | .unary _ op _ => op.isWord
  | .update _ _ isLeading arg => !isLeading && startsWithWord arg
  | .arrow _ isAsync params _ =>
    isAsync || (match params with
      | [param] => startsWithWord param
      | _ => false)
  | .exprStmt _ e => startsWithWord e
  | .debuggerStmt _ | .withStmt .. | .returnStmt .. | .labeledStmt .. | .breakStmt ..
  | .continueStmt .. | .ifStmt .. | .switchStmt .. | .throwStmt .. | .tryStmt .. | .whileStmt ..
  | .doWhileStmt .. | .forStmt .. | .forInStmt .. | .forOfStmt .. | .variableDecl .. => true
  | _ => false

/-- Whether a construction needs its parentheses: not if they hold nothing, except after a call. -/
def needsParens (callee : Node) (args : List Node) : Bool :=
  !args.isEmpty || (callee matches .call ..)

/-- Whether the code of a node, which is compact, ends like a word. -/
def endsWithWord : Node → Bool
  | .array .. | .object .. | .paren .. | .literal _ (.str ..) | .arrayPattern .. | .objectPattern ..
  | .call .. | .chainCall .. | .member _ _ (.computedKey ..) | .chainMember _ _ _ (.computedKey ..)
    => false
  | .construct _ callee hasArgs args => !(hasArgs && needsParens callee args)
  | .unary _ _ arg | .awaitExpr _ arg => endsWithWord arg
  | .binary _ _ _ right => endsWithWord right
  | .restPattern _ _ target => endsWithWord target
  | .defaultPattern _ _ value => endsWithWord value
  | .variableDecl _ _ decls => endsLast decls
  | _ => true
where
  /-- Whether the code of the last of some variables ends like a word. -/
  endsLast : List Node → Bool
  | [.declarator _ _ (some value)] => endsWithWord value
  | [.declarator _ target none] => endsWithWord target
  | _ :: more => endsLast more
  | [] => true

end ScriptMaps.Print
