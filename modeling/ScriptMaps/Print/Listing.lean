import ScriptMaps.Syntax.Node
import ScriptMaps.Print.Sheet

/-!
# Lists in printed code

The lists of a tree differ in what parts their elements from each other and from what encloses them.
A style says how a list is printed; the functions here put down all of it but the elements.
-/

namespace ScriptMaps.Print

open ScriptMaps.Syntax

/-- How the elements of a list are parted from each other and from what encloses them. -/
structure ListStyle where
  /-- Whether commas stand between the elements. -/
  hasCommas : Bool
  /-- Whether each element stands in a line of its own. -/
  isTall : Bool
  /-- Whether the elements are indented. -/
  isIndented : Bool := false
  /-- Whether blanks stand between the elements of a list in one line. -/
  isSpaced : Bool := false
  /-- Whether blanks stand inside the braces of a list in one line. -/
  hasInnerSpace : Bool := false
  /-- Whether the elements are statements. -/
  holdsStatements : Bool := false

/-- Elements in one line with commas between them. -/
def inlineList : ListStyle :=
  { hasCommas := true, isTall := false, isSpaced := true }

/-- Elements in one line with commas between them and blanks inside their braces. -/
def bracedList : ListStyle := { inlineList with hasInnerSpace := true }

/-- Elements in lines of their own with commas between them. -/
def tallList : ListStyle := { hasCommas := true, isTall := true, isIndented := true }

/-- Statements in lines of their own. -/
def statementList : ListStyle :=
  { hasCommas := false, isTall := true, isIndented := true, holdsStatements := true }

/-- Members or cases in lines of their own. -/
def memberList : ListStyle := { hasCommas := false, isTall := true, isIndented := true }

/-- What stands between an element and the one before it. -/
def betweenElements (style : ListStyle) : Printer := do
  if style.hasCommas then write ","
  if style.isTall then softNewline
  else if style.isSpaced then softSpace

/-- The comments after an element, which a list in one line prints. -/
def afterElement (style : ListStyle) (elem : Span) : Printer := do
  if !style.isTall && !elem.isNowhere then trailingComments elem.hi false

/-- What stands before the first element of a list. -/
def openList (style : ListStyle) : Printer := do
  if style.isTall then softNewline
  else if style.hasInnerSpace then softSpace
  if style.isIndented then soft (put .indent)

/-- What stands after the last element of a list. -/
def closeList (style : ListStyle) (hasTrailingComma : Bool) : Printer := do
  if hasTrailingComma then
    write ","
    softSpace
  if style.isIndented then soft (put .dedent)
  if style.isTall then softNewline
  else if style.hasInnerSpace then softSpace

/-- A list around its printed elements. -/
def around (style : ListStyle) (elems : List Node) (hasTrailingComma : Bool) (printed : Printer) :
    Printer := do
  if elems.isEmpty then
    if style.isTall then softNewline
    else if style.hasInnerSpace then softSpace
  else
    openList style
    printed
    closeList style hasTrailingComma

end ScriptMaps.Print
