import ScriptMaps.Print.Declaration
import ScriptMaps.Print.Markup

/-!
# Printing trees

Each node prints the comments before it, marks its place and writes its code, with its parts printed
in the same way. What a node is printed as can depend on where it stands, which its role tells. An
expression or a pattern is an operand of what it stands in, and prints the comments after it too.
-/

namespace ScriptMaps.Print

open ScriptMaps.Syntax

/-- What a node is printed as, where its code depends on that: the body of a function, whose brace
is not marked; a template with a tag, whose texts stay as they are; an operand; or, of the operands,
what a call or a template follows, or what a member is of, where a construction keeps its
parentheses. -/
inductive Role where
  | plain
  | body
  | tagged
  | operand
  | callee
  | object
  deriving DecidableEq, Inhabited

/-- Whether a node in a role is an expression or a pattern. -/
def Role.isOperand : Role → Bool
  | .operand | .callee | .object => true
  | .plain | .body | .tagged => false

/-- Whether the comments after a node in a role are printed with it. The dot after a number belongs
to it, so that it prints none as an object. -/
def printsTrailing : Role → Node → Bool
  | .object, .literal _ (.num _) => false
  | role, _ => role.isOperand

/-- A node printed in a role, and the comments after it if it is an operand. -/
def followed (role : Role) (node : Node) (printed : Printer) : Printer := do
  printed
  if printsTrailing role node then trailing node.span

mutual

/-- Prints a node. -/
def print (role : Role) (node : Node) : Printer := followed role node <|
  match node with
  -- names
  | .ident span name | .keyName span name => printName span name
  | .privateName span name => printPrivateName span name
  | .computedKey span e => printComputedKey span (print .operand e)
  -- expressions
  | .thisWord span => printWord span "this"
  | .superWord span => printWord span "super"
  | .importWord span phase => printImportWord span phase
  | .literal span value => printLiteral span value
  | .array span elems => printArray span elems (printEach tallList .operand true elems)
  | .hole => pure ()
  | .object span props => printObject span props (printEach tallList .plain true props)
  | .property span key value => printProperty span (print .plain key) (print .operand value)
  | .assignedName span key value =>
    printBinary span (print .plain key) (softSign "=") (print .operand value)
  | .objectMethod span isAsync isGenerator key params body =>
    printObjectMethod span isAsync isGenerator (print .plain key) params
      (printEach inlineList .plain true params) (print .body body)
  | .objectGetter span key body =>
    printObjectGetter span key (print .plain key) (print .plain body)
  | .objectSetter span key param body =>
    printObjectSetter span key (print .plain key) (print .operand param) (print .plain body)
  | .spreadMember span dots e => printSpreadMember span dots (print .operand e)
  | .spreadArg _ dots e => printSpreadArg dots (print .operand e)
  | .functionDef span isAsync isGenerator name params body =>
    printFunction span isAsync isGenerator role.isOperand name.isSome (printOption .plain name)
      params (printEach inlineList .plain true params) (print .body body)
  | .arrow span isAsync params body =>
    printArrow span isAsync params body (printEach inlineList .operand true params)
      (print (if isBlock body then .body else .operand) body)
  | .classDef span name superClass members =>
    printClass span name.isSome (printOption .plain name) superClass
      (printOption .operand superClass) members (printEach memberList .plain true members)
  | .unary span op arg => printUnary span op arg (print .operand arg)
  | .update span op isLeading arg => printUpdate span op isLeading (print .operand arg)
  | .binary span op left right =>
    printBinary span (print .operand left) (printOperator op left right) (print .operand right)
  | .assign span op target value =>
    printBinary span (print .plain target) (softSign op.text) (print .operand value)
  | .conditional span test yes no =>
    printConditional span (print .operand test) (print .operand yes) (print .operand no)
  | .sequence span exprs => do
    enter span
    printCommas exprs
  | .call span callee args =>
    printCall span (print .callee callee) args (printEach inlineList .operand true args)
  | .construct span callee hasArgs args =>
    printConstruct span (role == .callee || role == .object) callee hasArgs args
      (print .operand callee) (printEach inlineList .operand true args)
  | .member span object property =>
    printMember span object property (print .object object) (print .plain property)
  | .chainMember span isOptional object property =>
    printChainMember span isOptional property (print .callee object) (print .plain property)
  | .chainCall span isOptional callee args =>
    printChainCall span isOptional (print .callee callee) args
      (printEach inlineList .operand true args)
  | .template span parts => printTemplate span (printParts (role == .tagged) parts)
  | .templatePart span raw => printTemplatePart span (role == .tagged) raw
  | .taggedTemplate span tag template =>
    printTaggedTemplate span (print .callee tag) (print .tagged template)
  | .yieldExpr span isDelegate arg => printYield span isDelegate arg (printOption .operand arg)
  | .awaitExpr span arg => printAwait span (print .operand arg)
  | .paren span e => printParen span (print .operand e)
  | .newTarget span => do
    enter span
    write "new.target"
  | .importMeta span => do
    enter span
    write "import.meta"
  -- patterns
  | .arrayPattern span elems =>
    printArrayPattern span elems (printEach inlineList .operand true elems)
  | .objectPattern span props =>
    printObjectPattern span props (printEach bracedList .plain true props)
  | .defaultPattern span target value =>
    printDefault span (print .operand target) (assigned (print .operand value))
  | .restPattern span dots target => printRest span dots (print .operand target)
  | .propertyPattern span key value => do
    printProperty span (print .plain key) (print .operand value)
    markEnd span
  | .namePattern span key value => printDefault span (print .plain key) (printValue value)
  | .param span pattern => printParam span (print .operand pattern)
  -- class members
  | .classConstructor span params body =>
    printConstructor span params (printEach inlineList .plain true params) (print .plain body)
  | .classMethod span isStatic kind isAsync isGenerator key params body =>
    printClassMethod span isStatic kind isAsync isGenerator key (print .plain key) params
      (printEach inlineList .plain true params)
      (print (if isPrivate key then .body else .plain) body)
  | .field span isStatic key value =>
    printField span isStatic (print .plain key) (printValue value)
  | .staticBlock span body => printStaticBlock span (print .plain body)
  -- statements
  | .exprStmt span e => printExprStmt span e.span (print .operand e)
  | .block span stmts =>
    printBlock span (role != .body) stmts (printEach statementList .plain true stmts)
  | .emptyStmt span => printEmpty span
  | .debuggerStmt span => printDebugger span
  | .withStmt span object body =>
    printHeaded span "with" (print .operand object) body (print .plain body)
  | .returnStmt span arg => printReturn span arg (printOption .operand arg)
  | .labeledStmt span label body =>
    printLabeled span (print .plain label) body (print .plain body)
  | .breakStmt span label => printJump span "break" label.isSome (printOption .plain label)
  | .continueStmt span label => printJump span "continue" label.isSome (printOption .plain label)
  | .ifStmt span test yes no =>
    printIf span (print .operand test) yes (print .plain yes)
      (match no with
        | some e => printElse yes e (print .plain e)
        | none => pure ())
  | .switchStmt span subject cases =>
    printSwitch span (print .operand subject) cases (printEach memberList .plain true cases)
  | .switchCase span test stmts =>
    printCase span test (printOption .operand test) stmts
      (printEach statementList .plain true stmts)
  | .throwStmt span arg => printThrow span arg (print .operand arg)
  | .tryStmt span body handler finalizer =>
    printTry span (print .plain body)
      (match handler with
        | some h => do
          softSpace
          print .plain h
        | none => pure ())
      (match finalizer with
        | some f => printFinally (print .plain f)
        | none => pure ())
  | .catchClause span target body =>
    printCatch span
      (match target with
        | some p => inParens (print .operand p)
        | none => pure ())
      (print .plain body)
  | .whileStmt span test body =>
    printHeaded span "while" (print .operand test) body (print .plain body)
  | .doWhileStmt span body test =>
    printDoWhile span body (print .plain body) (print .operand test)
  | .forStmt span init test update body =>
    printHeaded span "for"
      (countingHead
        (match init with
          | some e => print (if isVariables e then .plain else .operand) e
          | none => pure ())
        test.isSome (printOption .operand test) update.isSome (printOption .operand update))
      body (print .plain body)
  | .forInStmt span left right body =>
    printHeaded span "for"
      (runningHead "in" left right (print (if isVariables left then .plain else .operand) left)
        (print .operand right))
      body (print .plain body)
  | .forOfStmt span isAwait left right body =>
    printForOf span isAwait
      (runningHead "of" left right (print (if isVariables left then .plain else .operand) left)
        (print .operand right))
      body (print .plain body)
  | .variableDecl span kind decls =>
    printVariableDecl span kind decls (printEach inlineList .plain true decls)
  | .declarator span target init =>
    printDeclarator span (print .operand target) (printValue init)
  -- imports and exports
  | .importDecl span phase specifiers source attributes =>
    printImport span phase specifiers (printBare specifiers) (printNamed true specifiers)
      (print .plain source) (printAttributesOf attributes)
  | .importDefault span name => do
    leading span
    print .plain name
  | .importNamespace _ name => wholeModule (print .plain name)
  | .importName span imported name =>
    printImportName span
      (match imported with
        | some n => calledAtHome (print .plain n)
        | none => pure ())
      (print .plain name)
  | .exportDecl span decl => printExportDecl span decl (print .plain decl)
  | .exportNames span specifiers source attributes =>
    printExportNames span specifiers (printEach bracedList .plain true specifiers)
      (printRun specifiers) source.isSome (printOption .plain source)
      (printAttributesOf attributes)
  | .exportNamespace span name => printExportNamespace span (print .plain name)
  | .exportName span name exported =>
    printExportName span (print .plain name)
      (match exported with
        | some n => calledAbroad (print .plain n)
        | none => pure ())
  | .exportAll span source attributes =>
    printExportAll span (print .plain source) (printAttributesOf attributes)
  | .exportDefaultExpr span e => printExportDefaultExpr span e (print .operand e)
  | .exportDefaultDecl span decl => printExportDefaultDecl span (print .operand decl)
  -- markup
  | .element span name attributes isSelfClosing children closing =>
    printElement span (print .plain name) (!attributes.isEmpty) (printAttributes attributes)
      isSelfClosing (printRun children)
      (match closing with
        | some c => printClosingTag (print .plain c)
        | none => pure ())
  | .fragment span children => printFragment span (printRun children)
  | .markupText span raw => printMarkupText span raw
  | .markupExpr span e =>
    printMarkupExpr span (print (if isMarkupEmpty e then .plain else .operand) e)
  | .markupEmpty span => printMarkupEmpty span
  | .markupSpread span e => printMarkupSpread span (print .operand e)
  | .markupAttribute span name value =>
    printAttribute span (print .plain name)
      (match value with
        | some v => attributeValueOf (print .plain v)
        | none => pure ())
  | .dottedName span object property =>
    printJoinedName span (print .plain object) "." (print .plain property)
  | .colonName span nameSpace name =>
    printJoinedName span (print .plain nameSpace) ":" (print .plain name)
  | .invalid _ => pure ()

/-- Prints the elements of a list in a role with what parts them. -/
def printEach (style : ListStyle) (role : Role) (isFirst : Bool) : List Node → Printer
  | [] => pure ()
  | a :: as => do
    if !isFirst then betweenElements style
    print role a
    if style.holdsStatements then endStatement a
    afterElement style a.span
    printEach style role false as

/-- Prints the items of a module, each with the comments after it. -/
def printItems : List Node → Printer
  | [] => pure ()
  | a :: as => do
    print .plain a
    endStatement a
    trailing a.span
    printItems as

/-- Prints the imports that stand outside braces: the default and the whole module. -/
def printBare : List Node → Printer
  | [] => pure ()
  | a :: as => do
    if isBare a then
      print .plain a
      if !as.isEmpty then
        write ","
        softSpace
    printBare as

/-- Prints the imports that stand in braces. -/
def printNamed (isFirst : Bool) : List Node → Printer
  | [] => pure ()
  | a :: as => do
    if isBare a then printNamed isFirst as
    else
      if !isFirst then betweenElements bracedList
      print .plain a
      afterElement bracedList a.span
      printNamed false as

/-- Prints expressions with commas between them. -/
def printCommas : List Node → Printer
  | [] => pure ()
  | a :: as => do
    print .operand a
    if !as.isEmpty then
      write ","
      softSpace
    printCommas as

/-- Prints the parts of a template; those of a tagged one stay as they are. -/
def printParts (isTagged : Bool) : List Node → Printer
  | [] => pure ()
  | a :: as => do
    if isTemplateText a then print (if isTagged then .tagged else .plain) a
    else
      write "$"
      inBraces (print .operand a)
    printParts isTagged as

/-- Prints attributes; those spread into the element stand in braces. -/
def printAttributes : List Node → Printer
  | [] => pure ()
  | a :: as => do
    if isSpread a then inBraces (print .plain a) else print .plain a
    if !as.isEmpty then softSpace
    printAttributes as

/-- Prints nodes one after the other. -/
def printRun : List Node → Printer
  | [] => pure ()
  | a :: as => do
    print .plain a
    printRun as

/-- Prints a node in a role if there is one. -/
def printOption (role : Role) : Option Node → Printer
  | none => pure ()
  | some a => print role a

/-- Prints a value behind the sign that assigns it, if there is one. -/
def printValue : Option Node → Printer
  | none => pure ()
  | some a => assigned (print .operand a)

/-- Prints what is said about the module that a declaration names, if anything is. -/
def printAttributesOf : Option Node → Printer
  | none => pure ()
  | some a => withAttributes (print .plain a)

end

end ScriptMaps.Print
