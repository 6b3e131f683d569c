/-!
# Laying out printed code

Printed code is a list of pieces: texts, ends of lines, steps of indentation, and marks that tie the
place they stand at to a position of the source. Laying it out gives the code, and for each mark the
line and column where it came to stand; columns count UTF-16 units. Marks leave the code as it is.
-/

namespace ScriptMaps.Print

/-- A piece of printed code. -/
inductive Piece where
  | text (s : String)
  | verbatim (s : String)
  | newline
  | indent
  | dedent
  | mark (pos : Nat)
  deriving Repr, DecidableEq, Inhabited

/-- Where a mark stands: its position of the source, and the line and column of the code. -/
structure Placed where
  pos : Nat
  line : Nat
  column : Nat
  deriving Repr, DecidableEq, Inhabited

/-- How far code is laid out. -/
structure Layout where
  code : String := ""
  depth : Nat := 0
  line : Nat := 0
  column : Nat := 0
  atLineStart : Bool := true
  pending : Option Nat := none
  marks : List Placed := []
  deriving Inhabited

/-- The number of UTF-16 units of a character. -/
def utf16Width (c : Char) : Nat := if c.toNat ≥ 0x10000 then 2 else 1

/-- The number of UTF-16 units of a text. -/
def utf16Length (s : String) : Nat := s.toList.foldl (fun n c => n + utf16Width c) 0

/-- How many lines of a text end, and the number of UTF-16 units after the last end. A line ends
with a line feed, with a carriage return, or with both as one. -/
def lineBreaks : List Char → Nat × Nat
  | [] => (0, 0)
  | c :: rest =>
    match lineBreaks rest with
    | (0, width) =>
      if c == '\n' || c == '\r' then (1, width) else (0, utf16Width c + width)
    | (count, width) =>
      if c == '\n' || (c == '\r' && rest.head? != some '\n') then (count + 1, width)
      else (count, width)

/-- The blanks before a line. -/
def indentation (depth : Nat) : String := String.ofList (List.replicate (4 * depth) ' ')

namespace Layout

/-- The marks that stand at the current place. Code only grows, so they are the newest. -/
def marksHere (l : Layout) : List Placed :=
  l.marks.takeWhile fun p => p.line == l.line && p.column == l.column

/-- Ties a position to the current place, once. -/
def place (l : Layout) (pos : Nat) : Layout :=
  if l.marksHere.any (·.pos == pos) then l
  else { l with marks := ⟨pos, l.line, l.column⟩ :: l.marks }

/-- Indents a new line and places the mark that waits for its text. -/
def beginLine (l : Layout) : Layout :=
  let begun :=
    { l with
      code := l.code ++ indentation l.depth
      column := l.column + 4 * l.depth
      atLineStart := false
      pending := none }
  (l.pending.map begun.place).getD begun

/-- Writes text in the current line. -/
def write (l : Layout) (s : String) : Layout :=
  if s.isEmpty then l
  else
    let l := if l.atLineStart then l.beginLine else l
    { l with code := l.code ++ s, column := l.column + utf16Length s }

/-- Moves on by the lines that a written text spans. -/
def passLines (l : Layout) (s : String) : Layout :=
  match lineBreaks s.toList with
  | (0, _) => l
  | (count, last) => { l with line := l.line + count, column := last }

/-- Ends the current line if anything stands in it. -/
def endLine (l : Layout) : Layout :=
  if l.atLineStart then { l with pending := none }
  else { l with code := l.code ++ "\n", line := l.line + 1, column := 0, atLineStart := true }

/-- Lays out one more piece. A mark at the start of a line waits for the text of the line. -/
def step (l : Layout) : Piece → Layout
  | .text s => l.write s
  | .verbatim s => (l.write s).passLines s
  | .indent => { l with depth := l.depth + 1 }
  | .dedent => { l with depth := l.depth - 1 }
  | .mark pos => if l.atLineStart then { l with pending := some pos } else l.place pos
  | .newline => l.endLine

end Layout

/-- Lays out pieces. -/
def layout (pieces : List Piece) : Layout := pieces.foldl Layout.step {}

end ScriptMaps.Print
