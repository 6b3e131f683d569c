import ScriptMaps.SourceMap.Segment

/-!
# Rebasing segments

Code that was generated in two steps has two maps: one from the final code to the text between the
steps, and one from that text to the sources. Rebasing moves the segments of the second to where the
first puts the text they stand for. Both lists of segments cut the text into ranges; where a range
of the one meets a range of the other, the segment of the second is put at the meeting's start.
-/

namespace ScriptMaps.SourceMap

/-- A line and a column. -/
abbrev Key := Nat × Nat

namespace Key

/-- Whether a place is before another. -/
def lt (a b : Key) : Bool := a.1 < b.1 || (a.1 == b.1 && a.2 < b.2)

/-- Whether a place is not after another. -/
def le (a b : Key) : Bool := !lt b a

/-- The later of two places. -/
def later (a b : Key) : Key := if lt a b then b else a

/-- The earlier of two places. -/
def earlier (a b : Key) : Key := if lt b a then b else a

end Key

/-- The greatest number of 32 bits. -/
def greatest32 : Nat := 0xffffffff

/-- The part of a text that belongs to a segment. -/
structure Extent where
  start : Key
  stop : Key
  segment : Segment
  deriving Repr, DecidableEq, Inhabited

/-- The extents of sorted segments: each ends where the next begins, but not after its line. -/
def extents (key : Segment → Key) : List Segment → List Extent
  | [] => []
  | s :: rest =>
    let start := key s
    let next := (rest.head?.map key).getD (greatest32, greatest32)
    ⟨start, Key.earlier next (start.1, greatest32), s⟩ :: extents key rest

/-- The place of a segment in the text it is part of. -/
def ownKey (s : Segment) : Key := (s.line, s.column)

/-- The place a segment leads back to, which is the first one if it leads nowhere. -/
def sourceKey (s : Segment) : Key :=
  match s.origin with
  | some o => (o.line, o.column)
  | none => (0, 0)

/-- The segment of an extent put where another segment moves the start of their meeting. -/
def moved (inner : Extent) (adjustment : Extent) : Segment :=
  let (line, column) := Key.later inner.start adjustment.start
  let g := adjustment.segment
  let (sourceLine, sourceColumn) := sourceKey g
  { inner.segment with
    line := Segment.wrap32 ((line : Int) + g.line - sourceLine)
    column := Segment.wrap32 ((column : Int) + g.column - sourceColumn) }

/-- The meetings of extents with one extent, and the extents still to be looked at. -/
def meetings (adjustment : Extent) : List Extent → List Segment × List Extent
  | [] => ([], [])
  | o :: rest =>
    if Key.lt o.start adjustment.stop then
      if Key.le adjustment.stop o.stop then ([moved o adjustment], o :: rest)
      else
        let (found, left) := meetings adjustment rest
        (moved o adjustment :: found, left)
    else ([], o :: rest)

/-- The meetings of two lists of extents. -/
def sweep : List Extent → List Extent → List Segment
  | [], _ => []
  | adjustment :: adjustments, inner =>
    let inner := inner.dropWhile fun o => Key.le o.stop adjustment.start
    let (found, left) := meetings adjustment inner
    found ++ sweep adjustments left

/-- Whether a segment leads back to a place not after that of another. -/
def leadsAtOrBefore (a b : Segment) : Bool := Key.le (sourceKey a) (sourceKey b)

/-- Moves the segments of a text's map to where the segments of a generated map put that text. -/
def rebase (generated inner : List Segment) : List Segment :=
  Segment.sorted
    (sweep (extents sourceKey (generated.mergeSort leadsAtOrBefore))
      (extents ownKey (Segment.sorted inner)))

end ScriptMaps.SourceMap
