import ScriptMaps.Print.Function

/-!
# Printed statements

How statements are put together from their printed parts. A statement in a list or in the place of
one is followed by its comments and a line end; a block is followed by nothing, except that a module
prints the comments after it.
-/

namespace ScriptMaps.Print

open ScriptMaps.Syntax

/-- What follows a statement: its comments and a line end. A block is followed by nothing. -/
def endStatement (stmt : Node) : Printer := do
  match stmt with
  | .block .. => pure ()
  | .variableDecl span _ _ =>
    write ";"
    trailing span
    softNewline
  | _ =>
    trailing stmt.span
    softNewline

/-- A statement in the place of one. -/
def ended (stmt : Node) (printed : Printer) : Printer := do
  printed
  endStatement stmt

/-- A condition or a subject in parentheses. -/
def inParens (printed : Printer) : Printer := do
  write "("
  printed
  write ")"

/-! ## Simple statements -/

/-- An expression that stands alone. The comments after one whose semicolon is understood follow the
semicolon that is written. -/
def printExprStmt (span expr : Span) (printed : Printer) : Printer := do
  leading span
  if expr.hi == span.hi then withholding expr.hi printed else printed
  write ";"

/-- A statement that is empty. -/
def printEmpty (span : Span) : Printer := do
  leading span
  write ";"

/-- A stop for the debugger. -/
def printDebugger (span : Span) : Printer := do
  printWord span "debugger"
  write ";"

/-- A block around its printed statements; `marksOpening` tells whether its brace is marked. -/
def printBlock (span : Span) (marksOpening : Bool) (stmts : List Node) (printed : Printer) :
    Printer := do
  leading span
  if marksOpening then markStart span
  write "\x7b"
  let isTall := !stmts.isEmpty || (← hasCommentsInside span)
  if isTall then around statementList stmts false printed
  leadingClose span
  markClose span
  write "\x7d"

/-- A label before a statement. -/
def printLabeled (span : Span) (label : Printer) (body : Node) (printedBody : Printer) :
    Printer := do
  enter span
  label
  write ":"
  softSpace
  ended body printedBody

/-! ## Jumps -/

/-- A return. -/
def printReturn (span : Span) (arg : Option Node) (printed : Printer) : Printer := do
  enter span
  write "return"
  match arg with
  | some e => heldInLine e printed true
  | none => pure ()
  write ";"

/-- A throw. -/
def printThrow (span : Span) (arg : Node) (printed : Printer) : Printer := do
  enter span
  write "throw"
  heldInLine arg printed true
  write ";"

/-- A jump to a label or out of what encloses it. -/
def printJump (span : Span) (word : String) (hasLabel : Bool) (label : Printer) : Printer := do
  enter span
  write word
  if hasLabel then space
  label
  write ";"

/-! ## Branches -/

/-- What an `if` does if its condition fails. -/
def printElse (yes no : Node) (printed : Printer) : Printer := do
  if isBlock yes then softSpace
  write "else"
  spaceIf (startsWithWord no)
  ended no printed

/-- An `if`; `otherwise` is what `printElse` prints, or nothing. -/
def printIf (span : Span) (test : Printer) (yes : Node) (printedYes otherwise : Printer) :
    Printer := do
  enter span
  write "if"
  softSpace
  inParens test
  softSpace
  ended yes printedYes
  otherwise

/-- A `switch`. -/
def printSwitch (span : Span) (subject : Printer) (cases : List Node) (printedCases : Printer) :
    Printer := do
  enter span
  write "switch"
  inParens subject
  write "\x7b"
  around memberList cases false printedCases
  markClose span
  write "\x7d"

/-- A case of a `switch`. -/
def printCase (span : Span) (test : Option Node) (printedTest : Printer) (stmts : List Node)
    (printedStmts : Printer) : Printer := do
  enter span
  match test with
  | some e =>
    write "case"
    spaceIf (startsWithWord e)
  | none => write "default"
  printedTest
  write ":"
  if !stmts.isEmpty then around statementList stmts false printedStmts

/-- A `try`; `handler` and `finalizer` print nothing where there are none. -/
def printTry (span : Span) (body handler finalizer : Printer) : Printer := do
  enter span
  write "try"
  softSpace
  body
  handler
  finalizer

/-- What is done with what a `try` caught. -/
def printCatch (span : Span) (target body : Printer) : Printer := do
  enter span
  write "catch"
  softSpace
  target
  softSpace
  body

/-- What is done after a `try` in any case. -/
def printFinally (body : Printer) : Printer := do
  softSpace
  write "finally"
  body

/-! ## Loops -/

/-- A word and a head in parentheses before a statement. -/
def printHeaded (span : Span) (word : String) (head : Printer) (body : Node)
    (printedBody : Printer) : Printer := do
  enter span
  write word
  inParens head
  ended body printedBody

/-- A loop that tests behind its body. -/
def printDoWhile (span : Span) (body : Node) (printedBody test : Printer) : Printer := do
  enter span
  write "do"
  spaceIf (startsWithWord body)
  ended body printedBody
  write "while"
  softSpace
  inParens test
  markEnd span

/-- The head of a loop that counts. -/
def countingHead (start : Printer) (hasTest : Bool) (test : Printer) (hasUpdate : Bool)
    (update : Printer) : Printer := do
  start
  write ";"
  if hasTest then softSpace
  test
  write ";"
  if hasUpdate then softSpace
  update

/-- The head of a loop that runs over keys or elements. -/
def runningHead (word : String) (left right : Node) (printedLeft printedRight : Printer) :
    Printer := do
  printedLeft
  spaceIf (endsWithWord left)
  write word
  spaceIf (startsWithWord right)
  printedRight

/-- A loop over elements. -/
def printForOf (span : Span) (isAwait : Bool) (head : Printer) (body : Node)
    (printedBody : Printer) : Printer := do
  enter span
  write "for"
  if isAwait then
    space
    write "await"
  softSpace
  inParens head
  ended body printedBody

/-! ## Variables -/

/-- Whether what a declaration declares first begins with a name. -/
def declaresNameFirst : List Node → Bool
  | .declarator _ (.arrayPattern ..) _ :: _ | .declarator _ (.objectPattern ..) _ :: _ => false
  | [] => false
  | _ => true

/-- A declaration of variables. The semicolon behind it belongs to what holds it. -/
def printVariableDecl (span : Span) (kind : VariableKind) (decls : List Node)
    (printed : Printer) : Printer := do
  enter span
  write kind.text
  spaceIf (declaresNameFirst decls)
  around inlineList decls false printed

/-- A variable and its value, if it has one. -/
def printDeclarator (span : Span) (target value : Printer) : Printer := do
  enter span
  target
  value

end ScriptMaps.Print
