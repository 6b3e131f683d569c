import ScriptMaps.Syntax.Comment
import ScriptMaps.Print.Layout

/-!
# The state of the printer

Printing puts pieces on a sheet and takes comments from their store as it passes their positions; a
comment is printed once. Compact code leaves out the blanks and line ends that only help a reader,
called soft below.
-/

namespace ScriptMaps.Print

open ScriptMaps.Syntax

/-- What has been printed, last piece first, and the comments still to be. -/
structure Sheet where
  isCompact : Bool
  comments : Comments
  pieces : List Piece := []
  deriving Inhabited

/-- A step of printing. -/
abbrev Printer := StateM Sheet Unit

/-- Puts down a piece. -/
def put (p : Piece) : Printer := modify fun s => { s with pieces := p :: s.pieces }

/-- Writes code that holds no line end. -/
def write (s : String) : Printer := put (.text s)

/-- Writes text that may hold line ends of its own. -/
def writeVerbatim (s : String) : Printer := put (.verbatim s)

/-- Does something unless the code is compact. -/
def soft (p : Printer) : Printer := do if !(← get).isCompact then p

/-- A blank. -/
def space : Printer := write " "

/-- A blank that compact code leaves out. -/
def softSpace : Printer := soft space

/-- A line end that compact code leaves out. -/
def softNewline : Printer := soft (put .newline)

/-- A blank, which compact code leaves out unless it parts two words. -/
def spaceIf (needed : Bool) : Printer := if needed then space else softSpace

/-- Ties the place to a position, unless that is nowhere. -/
def mark (pos : Nat) : Printer := if pos == 0 then pure () else put (.mark pos)

/-- Ties the place to the beginning of a span. -/
def markStart (s : Span) : Printer := mark s.lo

/-- Ties the place to the end of a span. -/
def markEnd (s : Span) : Printer := mark s.hi

/-- Ties the place to the last character of a span, which closes what was opened. -/
def markClose (s : Span) : Printer := if s.isNowhere then pure () else mark (s.hi - 1)

/-- Writes a word with marks at both ends. -/
def writeMarked (span : Span) (s : String) : Printer := do
  markStart span
  write s
  markEnd span

/-! ## Comments -/

/-- Writes a comment and what follows it: a line end after a line comment, else a soft blank. -/
def writeComment (c : Comment) : Printer := do
  markStart c.span
  if c.isBlock then
    writeVerbatim ("/*" ++ c.text)
    mark (c.span.hi - 2)
    write "*/"
    softSpace
  else
    writeVerbatim ("//" ++ c.text)
    markEnd c.span
    put .newline

/-- Prints the comments before a position. -/
def leadingComments (pos : Nat) : Printer := do
  let s ← get
  let found := s.comments.leadingAt pos
  set { s with comments := s.comments.dropLeading pos }
  found.forM writeComment

/-- Prints the comments before what a span stands for. -/
def leading (s : Span) : Printer := if s.isNowhere then pure () else leadingComments s.lo

/-- Begins a node: prints the comments before it and ties the place to its start. -/
def enter (s : Span) : Printer := do
  leading s
  markStart s

/-- Prints the comments before the closing character of a span. -/
def leadingClose (s : Span) : Printer := if s.isNowhere then pure () else leadingComments (s.hi - 1)

/-- Prints the comments after a position, with a soft blank before each if `spaced`. -/
def trailingComments (pos : Nat) (spaced : Bool) : Printer := do
  let s ← get
  let found := s.comments.trailingAt pos
  set { s with comments := s.comments.dropTrailing pos }
  found.forM fun c => do
    if spaced then softSpace
    writeComment c

/-- Prints something while the comments after a position wait. -/
def withholding (pos : Nat) (p : Printer) : Printer := do
  let held := (← get).comments.trailingAt pos
  modify fun s => { s with comments := s.comments.dropTrailing pos }
  p
  modify fun s =>
    { s with comments := held.foldl (fun cs c => cs.addTrailing pos c) s.comments }

/-- Prints the comments after what a span stands for. -/
def trailing (s : Span) : Printer :=
  if s.isNowhere then pure () else trailingComments s.hi true

/-- Whether comments stand before the closing character of a span. -/
def hasCommentsInside (s : Span) : StateM Sheet Bool := do
  if s.isNowhere then return false
  return !((← get).comments.leadingAt (s.hi - 1)).isEmpty

/-- Whether comments stand before what a span stands for. -/
def hasLeading (s : Span) : StateM Sheet Bool := do
  if s.isNowhere then return false
  return !((← get).comments.leadingAt s.lo).isEmpty

/-- Whether comments stand after what a span stands for. -/
def hasTrailing (s : Span) : StateM Sheet Bool := do
  return !((← get).comments.trailingAt s.hi).isEmpty

/-- Whether the code is compact. -/
def isCompact : StateM Sheet Bool := return (← get).isCompact

end ScriptMaps.Print
