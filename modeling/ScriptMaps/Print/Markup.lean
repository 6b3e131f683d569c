import ScriptMaps.Print.Leaf

/-!
# Printed markup

How elements, their attributes and what stands between their tags are put together from their
printed parts. Tags and braces are not marked; names, attributes and texts are.
-/

namespace ScriptMaps.Print

open ScriptMaps.Syntax

/-- Whether an attribute is spread into its element. -/
def isSpread : Node → Bool
  | .spreadMember .. => true
  | _ => false

/-- Whether braces hold no expression. -/
def isMarkupEmpty : Node → Bool
  | .markupEmpty _ => true
  | _ => false

/-- What stands in braces. -/
def inBraces (printed : Printer) : Printer := do
  write "\x7b"
  printed
  write "\x7d"

/-- A closing tag. -/
def printClosingTag (name : Printer) : Printer := do
  write "</"
  name
  write ">"

/-- An element; `closing` prints its closing tag, if it has one. -/
def printElement (span : Span) (name : Printer) (hasAttributes : Bool) (attributes : Printer)
    (isSelfClosing : Bool) (children closing : Printer) : Printer := do
  leading span
  write "<"
  name
  if hasAttributes then
    space
    attributes
  if isSelfClosing then write "/"
  write ">"
  children
  closing

/-- An element without a name. -/
def printFragment (span : Span) (children : Printer) : Printer := do
  leading span
  write "<>"
  children
  write "</>"

/-- The text between tags. -/
def printMarkupText (span : Span) (raw : String) : Printer := do
  enter span
  writeVerbatim raw
  markEnd span

/-- An expression between tags or as the value of an attribute. -/
def printMarkupExpr (span : Span) (expr : Printer) : Printer := do
  leading span
  inBraces expr

/-- The comments in braces that hold nothing else. -/
def printMarkupEmpty (span : Span) : Printer := do
  trailingComments span.lo true
  leadingComments span.hi

/-- Elements spread between tags. -/
def printMarkupSpread (span : Span) (expr : Printer) : Printer := do
  leading span
  write "\x7b..."
  expr
  write "\x7d"

/-- An attribute and its value, if it has one. -/
def printAttribute (span : Span) (name value : Printer) : Printer := do
  enter span
  name
  value

/-- The value of an attribute. -/
def attributeValueOf (value : Printer) : Printer := do
  write "="
  value

/-- Two parts of a name with a sign between them. -/
def printJoinedName (span : Span) (left : Printer) (sign : String) (right : Printer) : Printer := do
  leading span
  left
  write sign
  right

end ScriptMaps.Print
