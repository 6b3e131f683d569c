import ScriptMaps.Syntax.Node
import ScriptMaps.Print.Sheet
import ScriptMaps.Print.Number
import ScriptMaps.Print.Quote

/-!
# Printed names, literals and texts

What a tree ends in. A literal is written as it was read; compact code gives numbers and strings
their shortest form.
-/

namespace ScriptMaps.Print

open ScriptMaps.Syntax

/-- A word or a name with the comments before it. -/
def printName (span : Span) (name : String) : Printer := do
  enter span
  write name

/-- A string literal. The directive that makes code strict is none if it is written with escapes, so
these are kept. -/
def printString (span : Span) (value : List Nat) (raw : String) : Printer := do
  if value == "use strict".toList.map Char.toNat && raw.toList.contains '\\' then
    writeVerbatim raw
    markEnd span
  else writeVerbatim (if ← isCompact then quote value else raw)

/-- A number. -/
def printNumber (span : Span) (raw : String) : Printer := do
  enter span
  writeVerbatim (if ← isCompact then compactNumber raw else raw)

/-- Whether an object is a number after which the dot of a member would be taken for its own. -/
def needsSecondDot (compact : Bool) : Node → Bool
  | .literal _ (.num raw) =>
    if compact then compactLacksDot raw else rawLacksDot raw
  | _ => false

/-- A literal. -/
def printLiteral (span : Span) (value : Literal) : Printer := do
  match value with
  | .num raw => printNumber span raw
  | _ =>
    enter span
    match value with
    | .null => write "null"
    | .bool b => write (if b then "true" else "false")
    | .str value raw => printString span value raw
    | .bigint raw =>
      writeVerbatim (if ← isCompact then compactBigInt raw else raw)
      markEnd span
    | .regex body flags => write ("/" ++ body ++ "/" ++ flags)
    | .num _ => pure ()

/-- The lines of a template's text; `starts` are the offsets in the source where the lines after the
first begin, and `start` is that of the first. -/
def printTemplateLines (span : Span) (isFirst : Bool) (start : Nat) :
    List String → List Nat → Printer
  | line :: more :: lines, next :: starts => do
    if !(isFirst && line.isEmpty) then mark (span.lo + start)
    writeVerbatim (line ++ "\n")
    printTemplateLines span false next (more :: lines) starts
  | lines, _ => do
    mark (span.lo + start)
    writeVerbatim ("\n".intercalate lines)
    markEnd span

/-- The text of a template without a tag. In compact code each of its lines is marked; else an empty
text is not marked at all. -/
def printTemplateText (span : Span) (raw : String) : Printer := do
  if ← isCompact then
    printTemplateLines span true 0 ((compactTemplate raw).splitOn "\n") (lineStarts raw)
  else if !raw.isEmpty then
    markStart span
    writeVerbatim raw
    markEnd span

end ScriptMaps.Print
