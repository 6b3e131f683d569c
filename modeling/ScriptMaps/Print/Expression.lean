import ScriptMaps.Print.Edge
import ScriptMaps.Print.Leaf
import ScriptMaps.Print.Listing

/-!
# Printed expressions

How each kind of expression is put together from its printed parts. A part comes as the printer that
prints it, and as a node too where the code around it depends on what it is.
-/

namespace ScriptMaps.Print

open ScriptMaps.Syntax

/-! ## Operators -/

/-- Whether the code of a right operand would run together with an operator before it. -/
def clashesWith (op : BinaryOp) : Node → Bool
  | .update _ .increment true _ => op == .add
  | .update _ .decrement true _ => op == .sub
  | .unary _ .minus _ => op == .sub
  | .unary _ .plus _ => op == .add
  | .unary _ .not (.update _ .decrement _ _) => op == .lt || op == .shl
  | .binary _ _ left _ => clashesWith op left
  | _ => false

/-- Whether the code of an operand would run together with the operator before it. -/
def operandClashes (op : UnaryOp) : Node → Bool
  | .update _ .increment true _ | .unary _ .plus _ => op == .plus
  | .update _ .decrement true _ | .unary _ .minus _ => op == .minus
  | _ => false

/-- Whether the code of a left operand would run together with the operator after it into the end of
a comment. -/
def endsComment (op : BinaryOp) : Node → Bool
  | .update _ .decrement false _ => op == .gt || op == .ge || op == .shr || op == .ushr
  | _ => false

/-- An operator between two operands with the blanks around it. -/
def printOperator (op : BinaryOp) (left right : Node) : Printer := do
  let compact ← isCompact
  let before := !compact || (if op.isWord then endsWithWord left else endsComment op left)
  if before then space
  write op.text
  let after ←
    if compact then
      if op.isWord then pure (startsWithWord right)
      else if op == .div then
        pure (right.span.isNowhere
          || !((← get).comments.leadingAt right.span.lo).isEmpty)
      else pure (clashesWith op right)
    else pure true
  if after then space

/-- An operator before its operand. -/
def printUnary (span : Span) (op : UnaryOp) (arg : Node) (printed : Printer) : Printer := do
  enter span
  write op.text
  if op.isWord then spaceIf (startsWithWord arg)
  else if operandClashes op arg then space
  printed

/-- A step up or down, written before or after what it changes. -/
def printUpdate (span : Span) (op : UpdateOp) (isLeading : Bool) (arg : Printer) : Printer := do
  enter span
  if isLeading then write op.text
  arg
  if !isLeading then write op.text

/-- Two operands; `between` is what stands between them. -/
def printBinary (span : Span) (left between right : Printer) : Printer := do
  enter span
  left
  between
  right

/-- A sign with soft blanks around it. -/
def softSign (sign : String) : Printer := do
  softSpace
  write sign
  softSpace

/-- What is assigned, behind the sign for it. -/
def assigned (value : Printer) : Printer := do
  softSign "="
  value

/-- A choice between two expressions. -/
def printConditional (span : Span) (test yes no : Printer) : Printer := do
  enter span
  test
  softSign "?"
  yes
  softSign ":"
  no

/-- What dots spread or gather. -/
def printSpread (dots : Span) (target : Printer) : Printer := do
  writeMarked dots "..."
  target

/-! ## Arrays and objects -/

/-- Whether nothing stands in the last place of an array. -/
def endsWithHole : List Node → Bool
  | [] => false
  | [.hole] => true
  | _ :: rest => endsWithHole rest

/-- An array. -/
def printArray (span : Span) (elems : List Node) (printed : Printer) : Printer := do
  enter span
  write "["
  if elems.isEmpty then
    trailingComments span.lo true
    leadingClose span
  else around tallList elems (endsWithHole elems) printed
  write "]"
  markEnd span

/-- An object. -/
def printObject (span : Span) (props : List Node) (printed : Printer) : Printer := do
  enter span
  write "\x7b"
  if !props.isEmpty || (← hasCommentsInside span) then around tallList props false printed
  leadingClose span
  markClose span
  write "\x7d"

/-- A key with a value. -/
def printProperty (span : Span) (key value : Printer) : Printer := do
  enter span
  key
  write ":"
  softSpace
  value

/-- What is spread into an object. -/
def printSpreadMember (span dots : Span) (expr : Printer) : Printer := do
  enter span
  printSpread dots expr
  markEnd span

/-- An expression in the place of a key. -/
def printComputedKey (span : Span) (expr : Printer) : Printer := do
  enter span
  write "["
  expr
  write "]"
  markEnd span

/-! ## Members and calls -/

/-- Whether a property is an expression in brackets. -/
def isComputed : Node → Bool
  | .computedKey .. => true
  | _ => false

/-- Whether a node is the word `super`. -/
def isSuper : Node → Bool
  | .superWord _ => true
  | _ => false

/-- The comments before the dot of a member. -/
def leadingDot (property : Node) : Printer := do
  let lo := property.span.lo
  if lo ≥ 2 then leadingComments (lo - 1)

/-- The dot of a member, or the two dots after a number that would take the first for its own. -/
def printDot (object property : Node) : Printer := do
  if needsSecondDot (← isCompact) object then
    let lo := property.span.lo
    if lo ≥ 3 then leadingComments (lo - 2)
    write "."
  leadingDot property
  write "."

/-- A member of an object. -/
def printMember (span : Span) (object property : Node) (printedObject printedProperty : Printer) :
    Printer := do
  enter span
  printedObject
  if !isComputed property then printDot object property
  printedProperty
  if !isSuper object then markEnd span

/-- A member in a chain that ends where an object is missing. -/
def printChainMember (span : Span) (isOptional : Bool) (property : Node)
    (printedObject printedProperty : Printer) : Printer := do
  enter span
  printedObject
  if isOptional then write "?."
  else if !isComputed property then write "."
  printedProperty

/-- What is spread into the arguments of a call. -/
def printSpreadArg (dots : Span) (expr : Printer) : Printer := do
  leading dots
  printSpread dots expr

/-- Elements in parentheses. -/
def parenthesized (elems : List Node) (printed : Printer) : Printer := do
  write "("
  around inlineList elems false printed
  write ")"

/-- A call. -/
def printCall (span : Span) (callee : Printer) (args : List Node) (printedArgs : Printer) :
    Printer := do
  enter span
  callee
  parenthesized args printedArgs

/-- A call in a chain that ends where what is called is missing. -/
def printChainCall (span : Span) (isOptional : Bool) (callee : Printer) (args : List Node)
    (printedArgs : Printer) : Printer := do
  enter span
  callee
  if isOptional then write "?."
  parenthesized args printedArgs

/-- A construction. Compact code leaves out parentheses with nothing in them, unless
`keepsParens`. -/
def printConstruct (span : Span) (keepsParens : Bool) (callee : Node) (hasArgs : Bool)
    (args : List Node) (printedCallee printedArgs : Printer) : Printer := do
  enter span
  write "new"
  spaceIf (startsWithWord callee)
  printedCallee
  let keepsParens := keepsParens || !(← isCompact)
  if hasArgs && (keepsParens || needsParens callee args) then parenthesized args printedArgs

/-- An expression in parentheses. -/
def printParen (span : Span) (expr : Printer) : Printer := do
  enter span
  write "("
  expr
  markClose span
  write ")"

/-! ## Templates -/

/-- Whether a node is a part of a template that is text. -/
def isTemplateText : Node → Bool
  | .templatePart .. => true
  | _ => false

/-- A template around its parts. -/
def printTemplate (span : Span) (parts : Printer) : Printer := do
  enter span
  write "`"
  parts
  write "`"
  markEnd span

/-- A text of a template; that of a tagged one stays as it is. -/
def printTemplatePart (span : Span) (isTagged : Bool) (raw : String) : Printer := do
  if isTagged then
    markStart span
    write raw
    markEnd span
  else printTemplateText span raw

/-- A template with a tag. -/
def printTaggedTemplate (span : Span) (tag template : Printer) : Printer := do
  enter span
  tag
  template
  markEnd span

/-! ## Words -/

/-- The word of an import of a module as an expression, and that of its phase. -/
def printImportWord (span : Span) (phase : Option ImportPhase) : Printer := do
  leading span
  writeMarked span "import"
  match phase with
  | some phase => write ("." ++ phase.text)
  | none => pure ()

/-- A word that stands for a value. -/
def printWord (span : Span) (word : String) : Printer := do
  leading span
  writeMarked span word

/-- An expression in the line of the word before it. Parentheses keep comments before it from ending
that line. -/
def heldInLine (e : Node) (printed : Printer) (afterWord : Bool) : Printer := do
  if ← hasLeading e.span then
    write "("
    printed
    write ")"
  else
    spaceIf (afterWord && startsWithWord e)
    printed

/-- What a generator hands out. -/
def printYield (span : Span) (isDelegate : Bool) (arg : Option Node) (printed : Printer) :
    Printer := do
  enter span
  write "yield"
  if isDelegate then write "*"
  match arg with
  | some e => heldInLine e printed (!isDelegate)
  | none => pure ()

/-- What is waited for. -/
def printAwait (span : Span) (arg : Printer) : Printer := do
  enter span
  write "await"
  space
  arg

end ScriptMaps.Print
