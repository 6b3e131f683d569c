import ScriptMaps.Print.Expression

/-!
# Printed functions, classes and patterns

How functions, methods and classes are put together from their printed parts, and the patterns that
name what they are given. A setter in an object and a constructor have no blank before their bodies.
-/

namespace ScriptMaps.Print

open ScriptMaps.Syntax

/-! ## Functions -/

/-- The words before the star and the name of a function. -/
def printFunctionWord (isAsync : Bool) : Printer := do
  if isAsync then
    write "async"
    space
  write "function"

/-- A function. Between the star and the name of an expression there is always a blank. -/
def printFunction (span : Span) (isAsync isGenerator isOperand hasName : Bool) (name : Printer)
    (params : List Node) (printedParams body : Printer) : Printer := do
  enter span
  printFunctionWord isAsync
  if isGenerator then
    write "*"
    if hasName then spaceIf isOperand
  else if hasName then space
  name
  parenthesized params printedParams
  softSpace
  body

/-- The span of the only parameter of an arrow, if that is a name. -/
def singleName : List Node → Option Span
  | [.ident span _] => some span
  | _ => none

/-- Whether a node is a block. -/
def isBlock : Node → Bool
  | .block .. => true
  | _ => false

/-- Whether an arrow has parentheses around its parameters. Compact code leaves them out around a
single name without comments behind it. -/
def arrowHasParens (params : List Node) : StateM Sheet Bool := do
  match ← isCompact, singleName params with
  | true, some s => hasTrailing s
  | _, _ => return true

/-- An arrow. -/
def printArrow (span : Span) (isAsync : Bool) (params : List Node) (body : Node)
    (printedParams printedBody : Printer) : Printer := do
  enter span
  if isAsync then
    write "async"
    spaceIf (singleName params).isSome
  let hasParens ← arrowHasParens params
  if hasParens then write "("
  around inlineList params false printedParams
  if hasParens then write ")"
  write "=>"
  if isBlock body then printedBody
  else
    put .indent
    printedBody
    put .dedent

/-! ## Methods -/

/-- Whether a key calls for a blank between it and the word before it. -/
def keyStartsWithWord : Node → Bool
  | .keyName .. | .ident .. => true
  | .literal _ (.num _) | .literal _ (.bigint _) => true
  | _ => false

/-- A word before a key. -/
def wordBeforeKey (word : String) (key : Node) : Printer := do
  write word
  spaceIf (keyStartsWithWord key)

/-- What tells before its key that a method is run apart, or hands out values. -/
def printMethodSigns (isAsync isGenerator : Bool) : Printer := do
  if isAsync then
    write "async"
    space
  if isGenerator then write "*"

/-- A method of an object. -/
def printObjectMethod (span : Span) (isAsync isGenerator : Bool) (key : Printer)
    (params : List Node) (printedParams body : Printer) : Printer := do
  enter span
  printMethodSigns isAsync isGenerator
  key
  softSpace
  parenthesized params printedParams
  softSpace
  body

/-- A getter of an object. -/
def printObjectGetter (span : Span) (key : Node) (printedKey body : Printer) : Printer := do
  enter span
  wordBeforeKey "get" key
  printedKey
  softSpace
  write "()"
  softSpace
  body

/-- A setter of an object. -/
def printObjectSetter (span : Span) (key : Node) (printedKey param body : Printer) : Printer := do
  enter span
  wordBeforeKey "set" key
  printedKey
  softSpace
  write "("
  param
  write ")"
  body

/-! ## Classes -/

/-- A class. -/
def printClass (span : Span) (hasName : Bool) (name : Printer) (superClass : Option Node)
    (printedSuper : Printer) (members : List Node) (printedMembers : Printer) : Printer := do
  enter span
  write "class"
  if hasName then space
  name
  match superClass with
  | some e =>
    space
    write "extends"
    spaceIf (startsWithWord e)
  | none => pure ()
  printedSuper
  softSpace
  write "\x7b"
  around memberList members false printedMembers
  markClose span
  write "\x7d"

/-- The constructor of a class. -/
def printConstructor (span : Span) (params : List Node) (printedParams body : Printer) :
    Printer := do
  enter span
  write "constructor"
  parenthesized params printedParams
  body

/-- Whether a name is private. -/
def isPrivate : Node → Bool
  | .privateName .. => true
  | _ => false

/-- Whether a blank stands between `static` and what follows it in a method. Private methods keep it
in any case. -/
def parted (kind : MethodKind) (isAsync isGenerator : Bool) (key : Node) : Bool :=
  match kind with
  | .method => isPrivate key || isAsync || (!isGenerator && keyStartsWithWord key)
  | _ => true

/-- The word before the key of a getter or a setter. -/
def accessorWord (word : String) (key : Node) : Printer := do
  write word
  spaceIf (isPrivate key || keyStartsWithWord key)

/-- A method of a class. -/
def printClassMethod (span : Span) (isStatic : Bool) (kind : MethodKind)
    (isAsync isGenerator : Bool) (key : Node) (printedKey : Printer) (params : List Node)
    (printedParams body : Printer) : Printer := do
  enter span
  if isStatic then
    write "static"
    spaceIf (parted kind isAsync isGenerator key)
  match kind with
  | .method => printMethodSigns isAsync isGenerator
  | .getter => accessorWord "get" key
  | .setter => accessorWord "set" key
  printedKey
  parenthesized params printedParams
  softSpace
  body

/-- A field of a class. -/
def printField (span : Span) (isStatic : Bool) (key value : Printer) : Printer := do
  enter span
  if isStatic then
    write "static"
    space
  key
  value
  write ";"
  markEnd span

/-- A block that runs when its class is made. -/
def printStaticBlock (span : Span) (body : Printer) : Printer := do
  enter span
  write "static"
  body
  markEnd span

/-- A private name. -/
def printPrivateName (span : Span) (name : String) : Printer := do
  enter span
  write "#"
  markStart span
  write name
  markEnd span

/-! ## Patterns -/

/-- An array of patterns. -/
def printArrayPattern (span : Span) (elems : List Node) (printed : Printer) : Printer := do
  enter span
  write "["
  around inlineList elems false printed
  write "]"
  markEnd span

/-- Patterns for the members of an object. -/
def printObjectPattern (span : Span) (props : List Node) (printed : Printer) : Printer := do
  enter span
  write "\x7b"
  if !props.isEmpty then around bracedList props false printed
  write "\x7d"
  markEnd span

/-- A pattern and what it is given by default, if anything. -/
def printDefault (span : Span) (target value : Printer) : Printer := do
  enter span
  target
  value
  markEnd span

/-- A pattern for what is left over. -/
def printRest (span dots : Span) (target : Printer) : Printer := do
  enter span
  printSpread dots target

/-- A parameter. -/
def printParam (span : Span) (pattern : Printer) : Printer := do
  enter span
  pattern
  markEnd span

end ScriptMaps.Print
