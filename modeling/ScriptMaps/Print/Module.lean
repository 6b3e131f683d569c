import ScriptMaps.Print.Node

/-!
# Printing modules

A module is printed as the comments before it, the line that names its interpreter, its items, and
the comments at its end. One without items is marked itself. What comes of it is laid out as code
with the marks of its nodes.
-/

namespace ScriptMaps.Print

open ScriptMaps.Syntax

/-- Prints a module. -/
def printModule (m : Module) : Printer := do
  leading m.span
  if m.items.isEmpty then markStart m.span
  match m.interpreter with
  | some line =>
    writeVerbatim ("#!" ++ line)
    put .newline
  | none => pure ()
  printItems m.items
  trailing m.span

/-- The pieces a module is printed as, with the comments that are left for it. -/
def pieces (isCompact : Bool) (comments : Comments) (m : Module) : List Piece :=
  ((printModule m).run { isCompact := isCompact, comments := comments }).2.pieces.reverse

/-- A module printed and laid out. -/
def render (isCompact : Bool) (comments : Comments) (m : Module) : Layout :=
  layout (pieces isCompact comments m)

end ScriptMaps.Print
