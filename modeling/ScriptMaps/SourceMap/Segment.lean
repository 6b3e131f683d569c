import ScriptMaps.SourceMap.Vlq

/-!
# Segments

A segment ties a place of generated code to a place of a source. The text of a map holds them line
by line, each number as the difference to the one before it. A second text holds a bit for each
segment that stands for a whole range.
-/

namespace ScriptMaps.SourceMap

/-- Where a segment leads back to: a place in a source, and a name it has there, if any. -/
structure Origin where
  source : Nat
  line : Nat
  column : Nat
  name : Option Nat
  deriving Repr, DecidableEq, Inhabited

/-- A place of generated code, what it stems from, if anything, and whether the segment is a
range. -/
structure Segment where
  line : Nat
  column : Nat
  origin : Option Origin
  isRange : Bool
  deriving Repr, DecidableEq, Inhabited

namespace Segment

/-! ## Reading -/

/-- An integer as one of 32 bits without sign. -/
def wrap32 (n : Int) : Nat := (n % 0x100000000).toNat

/-- A number moved on by a difference. -/
def advance (n : Nat) (difference : Int) : Nat := wrap32 (n + difference)

/-- The numbers differences are taken from. -/
structure Running where
  column : Nat := 0
  source : Nat := 0
  sourceLine : Nat := 0
  sourceColumn : Nat := 0
  name : Nat := 0
  deriving Inhabited

/-- Reads the numbers of a segment. -/
def ofNumbers (sourceCount nameCount line : Nat) (isRange : Bool) (r : Running)
    (numbers : List Int) : Except MapCause (Segment × Running) :=
  match numbers with
  | [] => .error (.segmentSize 0)
  | [c] =>
    let r := { r with column := advance r.column c }
    .ok (⟨line, r.column, none, isRange⟩, r)
  | c :: s :: l :: k :: rest =>
    if rest.length > 1 then .error (.segmentSize numbers.length)
    else
      let column := advance r.column c
      let source := advance r.source s
      if source ≥ sourceCount then .error (.sourceReference source)
      else
        let r : Running :=
          ⟨column, source, advance r.sourceLine l, advance r.sourceColumn k, r.name⟩
        let origin (name : Option Nat) : Origin := ⟨source, r.sourceLine, r.sourceColumn, name⟩
        match rest with
        | [] => .ok (⟨line, column, some (origin none), isRange⟩, r)
        | n :: _ =>
          let name := advance r.name n
          if name ≥ nameCount then .error (.nameReference name)
          else .ok (⟨line, column, some (origin (some name)), isRange⟩, { r with name := name })
  | _ => .error (.segmentSize numbers.length)

/-- The parts of a text between separators. -/
def splitAt (separator : Char) : List Char → List (List Char)
  | [] => [[]]
  | c :: cs =>
    match splitAt separator cs with
    | [] => [[c]]
    | part :: parts => if c == separator then [] :: part :: parts else (c :: part) :: parts

/-- The bits of a number below 64, the lowest first. -/
def sixBits (n : Nat) : List Bool := (List.range 6).map n.testBit

/-- The first byte of a character in UTF-8, as the character with that number. -/
def firstByte (c : Char) : Char :=
  Char.ofNat ((String.utf8EncodeChar c).head?.map UInt8.toNat |>.getD 0)

/-- Reads the bits for the segments of a line. -/
def rangeBits : List Char → Except MapCause (List Bool)
  | [] => .ok []
  | c :: cs =>
    match base64Value? c with
    | some n => (rangeBits cs).map (sixBits n ++ ·)
    | none => .error (.badDigit (firstByte c))

/-- Reads the segments of a line; empty ones are passed over but counted. -/
def decodeLine (sourceCount nameCount line : Nat) (bits : List Bool) :
    List (List Char) → Nat → Running → Except MapCause (List Segment × Running)
  | [], _, r => .ok ([], r)
  | [] :: texts, index, r => decodeLine sourceCount nameCount line bits texts (index + 1) r
  | text :: texts, index, r => do
    let numbers ← Vlq.decode text
    let (segment, r) ←
      ofNumbers sourceCount nameCount line (bits.getD index false) r numbers
    let (segments, r) ← decodeLine sourceCount nameCount line bits texts (index + 1) r
    return (segment :: segments, r)

/-- Reads the segments of all lines. -/
def decodeLines (sourceCount nameCount : Nat) :
    List (List Char) → List (List Char) → Nat → Running → Except MapCause (List Segment)
  | [], _, _, _ => .ok []
  | [] :: lines, ranges, line, r =>
    decodeLines sourceCount nameCount lines ranges.tail (line + 1) r
  | text :: lines, ranges, line, r => do
    let bits ← rangeBits (ranges.headD [])
    let (segments, r) ←
      decodeLine sourceCount nameCount line bits (splitAt ',' text) 0 { r with column := 0 }
    return segments ++ (← decodeLines sourceCount nameCount lines ranges.tail (line + 1) r)

/-- Whether a place of generated code is not after another. -/
def atOrBefore (a b : Segment) : Bool :=
  a.line < b.line || (a.line == b.line && a.column ≤ b.column)

/-- Segments in the order of the generated code. -/
def sorted (segments : List Segment) : List Segment := segments.mergeSort atOrBefore

/-- Reads the segments of a map and sorts them. -/
def decode (sourceCount nameCount : Nat) (mappings rangeMappings : String) :
    Except MapCause (List Segment) := do
  let lines := splitAt ';' mappings.toList
  let ranges := splitAt ';' rangeMappings.toList
  return sorted (← decodeLines sourceCount nameCount lines ranges 0 {})

/-! ## Writing -/

/-- A segment as the differences to what came before. -/
def encodeOne (r : Running) (s : Segment) : List Char × Running :=
  let difference (a b : Nat) : List Char := Vlq.encode ((a : Int) - b)
  let text := difference s.column r.column
  let r := { r with column := s.column }
  match s.origin with
  | none => (text, r)
  | some o =>
    let text := text ++ difference o.source r.source ++ difference o.line r.sourceLine
      ++ difference o.column r.sourceColumn
    let r : Running := ⟨s.column, o.source, o.line, o.column, r.name⟩
    match o.name with
    | none => (text, r)
    | some name => (text ++ difference name r.name, { r with name := name })

/-- Segments after another one as text; one that repeats the one before it is left out. -/
def encodeAfter (previous : Option Segment) (line : Nat) (r : Running) :
    List Segment → List Char
  | [] => []
  | s :: rest =>
    if s.line != line then
      let (text, r) := encodeOne { r with column := 0 } s
      List.replicate (s.line - line) ';' ++ text ++ encodeAfter (some s) s.line r rest
    else if previous == some s then encodeAfter (some s) line r rest
    else
      let (text, r) := encodeOne r s
      (if previous.isSome then [','] else []) ++ text ++ encodeAfter (some s) line r rest

/-- Sorted segments as text. -/
def encode (segments : List Segment) : String := String.ofList (encodeAfter none 0 {} segments)

/-- The number whose bits are given, the lowest first. -/
def ofBits : List Bool → Nat
  | [] => 0
  | b :: bs => (if b then 1 else 0) + 2 * ofBits bs

/-- Bits as text, six in a digit; `fuel` is at least their count. -/
def encodeBits : Nat → List Bool → List Char
  | 0, _ => []
  | fuel + 1, bits =>
    if bits.isEmpty then []
    else base64Digit (ofBits (bits.take 6)) :: encodeBits fuel (bits.drop 6)

/-- The bits with the given indices set, up to the last of them, as text. -/
def encodeIndices (indices : List Nat) : List Char :=
  let last := indices.foldl max 0
  let bits := (List.range (last + 1)).map indices.contains
  encodeBits (bits.length + 1) bits

/-- The bits of segments as text. `index` counts all segments, `first` is the index of the first of
the current line, and `indices` are the ranges found for it. A range that begins a line is counted
to the line before. -/
def encodeRanges (line index first : Nat) (indices : List Nat) : List Segment → List Char
  | [] => if indices.isEmpty then [] else encodeIndices indices
  | s :: rest =>
    let indices := if s.isRange then (index - first) :: indices else indices
    if s.line != line then
      (if indices.isEmpty then [] else encodeIndices indices)
        ++ List.replicate (s.line - line) ';'
        ++ encodeRanges s.line (index + 1) index [] rest
    else encodeRanges line (index + 1) first indices rest

/-- The bits of segments as text, if any is a range. -/
def encodeRangeMappings (segments : List Segment) : Option String :=
  if segments.any (·.isRange) then some (String.ofList (encodeRanges 0 0 0 [] segments))
  else none

end Segment

end ScriptMaps.SourceMap
