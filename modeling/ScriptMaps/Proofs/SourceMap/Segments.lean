import ScriptMaps.SourceMap.Segment
import ScriptMaps.Proofs.SourceMap.Vlq
import Mathlib.Data.List.Destutter

/-!
# Reading back segments

Reading the text of segments gives them back: their places and origins in the same order, with what
repeats the segment before it left out (`decodeRest_encodeAfter`). Whether a segment is a range is
told by a second text, so `Segment.plain` forgets it.

The text of a line goes on where the segment before it ended: with a comma, with the end of the
line, or not at all. `decodeRest` reads such a text, and the induction is on the segments still to
be written.
-/

namespace ScriptMaps.SourceMap.Segment

open Vlq

/-- The numbers of a segment are numbers of 32 bits and refer to sources and names that exist. -/
structure Fits (sources names : Nat) (s : Segment) : Prop where
  column : s.column < 2 ^ 32
  source : ∀ o ∈ s.origin, o.source < sources ∧ o.source < 2 ^ 32
  place : ∀ o ∈ s.origin, o.line < 2 ^ 32 ∧ o.column < 2 ^ 32
  name : ∀ o ∈ s.origin, ∀ n ∈ o.name, n < names ∧ n < 2 ^ 32

/-- The numbers that differences are taken from are numbers of 32 bits. -/
structure Running.Small (r : Running) : Prop where
  column : r.column < 2 ^ 32
  source : r.source < 2 ^ 32
  sourceLine : r.sourceLine < 2 ^ 32
  sourceColumn : r.sourceColumn < 2 ^ 32
  name : r.name < 2 ^ 32

/-- A segment without what a second text tells of it. -/
def plain (s : Segment) : Segment := { s with isRange := false }

/-! ## Splitting texts -/

section Splitting

variable {sep : Char} {a b : List Char}

/-- A text splits into at least one part. -/
lemma splitAt_ne_nil (sep : Char) (a : List Char) : splitAt sep a ≠ [] := by
  cases a with
  | nil => simp [splitAt]
  | cons c cs =>
    rw [splitAt]
    split
    · simp
    · split <;> simp

/-- A text splits at a separator at its beginning. -/
lemma splitAt_separator (sep : Char) (a : List Char) :
    splitAt sep (sep :: a) = [] :: splitAt sep a := by
  rw [splitAt]
  split
  case h_1 h => exact absurd h (splitAt_ne_nil sep a)
  case h_2 h => simp [h]

/-- A text does not split before its first separator. -/
lemma splitAt_append (h : sep ∉ a) :
    splitAt sep (a ++ b) = (a ++ (splitAt sep b).headD []) :: (splitAt sep b).tail := by
  induction a with
  | nil =>
    cases e : splitAt sep b with
    | nil => exact absurd e (splitAt_ne_nil sep b)
    | cons part parts => simpa using e
  | cons c a ih =>
    obtain ⟨different, h⟩ := not_or.1 (mt List.mem_cons.2 h)
    simp [splitAt, ih h, Ne.symm different]

/-- A text splits at each of the separators at its beginning. -/
lemma splitAt_replicate (sep : Char) (k : Nat) (a : List Char) :
    splitAt sep (List.replicate k sep ++ a) = List.replicate k [] ++ splitAt sep a := by
  induction k with
  | zero => rfl
  | succ k ih =>
    rw [List.replicate_succ, List.cons_append, splitAt_separator, ih, List.replicate_succ,
      List.cons_append]

/-- The parts of a text hold its characters but for the separators. -/
lemma mem_of_mem_splitAt {part : List Char} {c : Char} (h : part ∈ splitAt sep a) (hc : c ∈ part) :
    c ∈ a ∧ c ≠ sep := by
  induction a generalizing part with
  | nil =>
    obtain rfl := List.mem_singleton.1 h
    cases hc
  | cons d a ih =>
    by_cases e : d = sep
    · subst e
      rw [splitAt_separator] at h
      obtain rfl | h := List.mem_cons.1 h
      · cases hc
      · exact ⟨List.mem_cons_of_mem _ (ih h hc).1, (ih h hc).2⟩
    · have split := @splitAt_append sep [d] a (by simpa using Ne.symm e)
      rw [List.singleton_append] at split
      rw [split] at h
      have head : (splitAt sep a).headD [] ∈ splitAt sep a := by
        cases e : splitAt sep a with
        | nil => exact absurd e (splitAt_ne_nil sep a)
        | cons part parts => exact List.mem_cons_self
      obtain rfl | h := List.mem_cons.1 h
      · obtain rfl | hc := List.mem_cons.1 hc
        · exact ⟨List.mem_cons_self, e⟩
        · exact ⟨List.mem_cons_of_mem _ (ih head hc).1, (ih head hc).2⟩
      · have := ih (List.mem_of_mem_tail h) hc
        exact ⟨List.mem_cons_of_mem _ this.1, this.2⟩

end Splitting

/-! ## One segment -/

/-- Moving on by the difference to a number of 32 bits leads to that number. -/
lemma advance_sub {a b : Nat} (h : a < 2 ^ 32) : advance b ((a : Int) - b) = a := by
  unfold advance wrap32
  omega

/-- The difference of numbers of 32 bits is small enough to be read back. -/
lemma natAbs_sub_lt {a b : Nat} (ha : a < 2 ^ 32) (hb : b < 2 ^ 32) :
    ((a : Int) - b).natAbs < 2 ^ 62 := by
  omega

/-- The text of a segment is not empty. -/
lemma encodeOne_ne_nil (r : Running) (s : Segment) : (encodeOne r s).1 ≠ [] := by
  unfold encodeOne
  split
  · exact encode_ne_nil _
  · split <;> simp [encode_ne_nil]

/-- The text of a segment consists of digits. -/
lemma mem_base64Digits_of_mem_encodeOne {r : Running} {s : Segment} {c : Char}
    (h : c ∈ (encodeOne r s).1) : c ∈ base64Digits := by
  unfold encodeOne at h
  split at h
  · exact mem_base64Digits_of_mem_encode h
  · split at h <;> simp only [List.mem_append] at h <;>
      grind [mem_base64Digits_of_mem_encode]

/-- The differences after a segment are taken from numbers of 32 bits. -/
lemma Fits.small_encodeOne {sources names : Nat} {s : Segment} {r : Running}
    (fits : s.Fits sources names) (small : r.Small) : (encodeOne r s).2.Small := by
  unfold encodeOne
  split
  case h_1 => exact ⟨fits.column, small.source, small.sourceLine, small.sourceColumn, small.name⟩
  case h_2 o origin =>
    have source := (fits.source o origin).2
    have place := fits.place o origin
    split
    case h_1 => exact ⟨fits.column, source, place.1, place.2, small.name⟩
    case h_2 n name => exact ⟨fits.column, source, place.1, place.2, (fits.name o origin n name).2⟩

/-- The text of a segment is read back as the segment. -/
lemma Fits.ofNumbers_decode_encodeOne {sources names : Nat} {s : Segment} {r : Running}
    (line : Nat) (isRange : Bool) (fits : s.Fits sources names) (small : r.Small) :
    ∃ numbers, Vlq.decode (encodeOne r s).1 = .ok numbers ∧
      ofNumbers sources names line isRange r numbers =
        .ok ({ s with line := line, isRange := isRange }, (encodeOne r s).2) := by
  obtain ⟨l, column, origin, b⟩ := s
  have difference := natAbs_sub_lt fits.column small.column
  -- A segment is written as one, four or five numbers: its column, its origin and the name of that.
  cases origin with
  | none =>
    refine ⟨_, decode_encode difference, ?_⟩
    simp [ofNumbers, encodeOne, advance_sub fits.column]
  | some o =>
    obtain ⟨source, sourceLine, sourceColumn, name⟩ := o
    obtain ⟨known, source32⟩ : source < sources ∧ source < 2 ^ 32 := fits.source _ rfl
    obtain ⟨line32, column32⟩ : sourceLine < 2 ^ 32 ∧ sourceColumn < 2 ^ 32 := fits.place _ rfl
    cases name with
    | none =>
      refine ⟨[(column : Int) - r.column, (source : Int) - r.source,
        (sourceLine : Int) - r.sourceLine, (sourceColumn : Int) - r.sourceColumn], ?_, ?_⟩
      · simp only [encodeOne, List.append_assoc]
        rw [decode_encode_append difference,
          decode_encode_append (natAbs_sub_lt source32 small.source),
          decode_encode_append (natAbs_sub_lt line32 small.sourceLine),
          decode_encode (natAbs_sub_lt column32 small.sourceColumn)]
        rfl
      · simp [ofNumbers, encodeOne, advance_sub fits.column, advance_sub source32,
          advance_sub line32, advance_sub column32, Nat.not_le.2 known]
    | some name =>
      obtain ⟨knownName, name32⟩ := fits.name _ rfl name rfl
      refine ⟨[(column : Int) - r.column, (source : Int) - r.source,
        (sourceLine : Int) - r.sourceLine, (sourceColumn : Int) - r.sourceColumn,
        (name : Int) - r.name], ?_, ?_⟩
      · simp only [encodeOne, List.append_assoc]
        rw [decode_encode_append difference,
          decode_encode_append (natAbs_sub_lt source32 small.source),
          decode_encode_append (natAbs_sub_lt line32 small.sourceLine),
          decode_encode_append (natAbs_sub_lt column32 small.sourceColumn),
          decode_encode (natAbs_sub_lt name32 small.name)]
        rfl
      · simp [ofNumbers, encodeOne, advance_sub fits.column, advance_sub source32,
          advance_sub line32, advance_sub column32, advance_sub name32, Nat.not_le.2 known,
          Nat.not_le.2 knownName]

/-! ## The rest of a line -/

/-- Reads the parts of a line, of whose segments `index` have been read, and the lines below it. -/
def decodeParts (sources names : Nat) (bits : List Bool) (index line : Nat) (r : Running)
    (ranges parts lines : List (List Char)) : Except MapCause (List Segment) := do
  let (segments, r) ← decodeLine sources names line bits parts index r
  return segments ++ (← decodeLines sources names lines ranges (line + 1) r)

/-- Reads the text that comes after a segment. -/
def decodeRest (sources names : Nat) (bits : List Bool) (index line : Nat) (r : Running)
    (ranges : List (List Char)) (text : List Char) : Except MapCause (List Segment) :=
  decodeParts sources names bits index line r ranges
    (splitAt ',' ((splitAt ';' text).headD [])).tail (splitAt ';' text).tail

/-- A text that can come after a segment: it does not begin with a digit. -/
def Continues (text : List Char) : Prop := ∀ c ∈ text.head?, c = ',' ∨ c = ';'

section Rest

variable {sources names line index : Nat} {bits : List Bool} {r r' : Running}
variable {ranges parts lines : List (List Char)} {x text : List Char} {numbers : List Int}
variable {s : Segment} {found : List Segment}

/-- The first part is read as a segment, and then the others are. -/
lemma decodeParts_cons (nonempty : x ≠ []) (decoded : Vlq.decode x = .ok numbers)
    (one : ofNumbers sources names line (bits.getD index false) r numbers = .ok (s, r')) :
    decodeParts sources names bits index line r ranges (x :: parts) lines =
      (decodeParts sources names bits (index + 1) line r' ranges parts lines).map (s :: ·) := by
  cases x with
  | nil => exact absurd rfl nonempty
  | cons c x =>
    simp only [decodeParts, decodeLine, decoded, one, bind, Except.bind]
    cases decodeLine sources names line bits parts (index + 1) r' with
    | error => rfl
    | ok read =>
      simp only [pure, Except.pure]
      cases decodeLines sources names lines ranges (line + 1) read.2 <;> rfl

/-- A line that is not empty is read part by part. -/
lemma decodeLines_cons (nonempty : x ≠ []) (ranged : rangeBits (ranges.headD []) = .ok bits) :
    decodeLines sources names (x :: lines) ranges line r =
      decodeParts sources names bits 0 line { r with column := 0 } ranges.tail (splitAt ',' x)
        lines := by
  cases x with
  | nil => exact absurd rfl nonempty
  | cons c x =>
    rw [decodeLines, ranged]
    · rfl
    · exact nonempty

/-- Empty lines are passed over. -/
lemma decodeLines_replicate (k : Nat) :
    decodeLines sources names (List.replicate k [] ++ lines) ranges line r =
      decodeLines sources names lines (ranges.drop k) (line + k) r := by
  induction k generalizing ranges line with
  | zero => rfl
  | succ k ih =>
    rw [List.replicate_succ, List.cons_append, decodeLines, ih, List.drop_tail, Nat.add_assoc,
      Nat.add_comm 1 k]

/-- Digits are no separators. -/
lemma separators_not_mem (digits : ∀ c ∈ x, c ∈ base64Digits) : ',' ∉ x ∧ ';' ∉ x := by
  have comma : ',' ∉ base64Digits := by decide +kernel
  have semicolon : ';' ∉ base64Digits := by decide +kernel
  exact ⟨fun h => comma (digits _ h), fun h => semicolon (digits _ h)⟩

/-- A text that begins with a comma goes on with the same line. -/
lemma splitAt_comma (text : List Char) :
    splitAt ';' (',' :: text) = (',' :: (splitAt ';' text).headD []) :: (splitAt ';' text).tail :=
  @splitAt_append ';' [','] text (by decide)

/-- What comes after a segment does not change the segment's text. -/
lemma headD_splitAt (h : Continues text) :
    (splitAt ',' ((splitAt ';' text).headD [])).headD [] = [] := by
  cases text with
  | nil => rfl
  | cons c text =>
    obtain rfl | rfl := h c rfl
    · rw [splitAt_comma, List.headD_cons, splitAt_separator, List.headD_cons]
    · rw [splitAt_separator, List.headD_cons]
      rfl

/-- The parts of a text that begins with a segment. -/
lemma splitAt_segment (digits : ∀ c ∈ x, c ∈ base64Digits) (h : Continues text) :
    splitAt ';' (x ++ text) =
        (x ++ (splitAt ';' text).headD []) :: (splitAt ';' text).tail ∧
      splitAt ',' (x ++ (splitAt ';' text).headD []) =
        x :: (splitAt ',' ((splitAt ';' text).headD [])).tail := by
  obtain ⟨comma, semicolon⟩ := separators_not_mem digits
  refine ⟨splitAt_append semicolon, ?_⟩
  rw [splitAt_append comma, headD_splitAt h, List.append_nil]

/-- A line that begins with a segment is read as that segment and what comes after it. -/
lemma Fits.decodeLines_encodeOne (fits : s.Fits sources names)
    (small : Running.Small { r with column := 0 }) (continues : Continues text)
    (ranged : rangeBits (ranges.headD []) = .ok bits)
    (rest : decodeRest sources names bits 1 line (encodeOne { r with column := 0 } s).2
      ranges.tail text = .ok found) :
    decodeLines sources names (splitAt ';' ((encodeOne { r with column := 0 } s).1 ++ text))
        ranges line r =
      .ok ({ s with line := line, isRange := bits.getD 0 false } :: found) := by
  obtain ⟨numbers, decoded, one⟩ := fits.ofNumbers_decode_encodeOne line (bits.getD 0 false) small
  obtain ⟨lines, parts⟩ :=
    splitAt_segment (fun c mem => mem_base64Digits_of_mem_encodeOne mem) continues
  have nonempty := encodeOne_ne_nil { r with column := 0 } s
  have nonemptyLine : (encodeOne { r with column := 0 } s).1 ++ (splitAt ';' text).headD [] ≠ [] :=
    List.append_ne_nil_of_left_ne_nil nonempty _
  unfold decodeRest at rest
  rw [lines, decodeLines_cons nonemptyLine ranged, parts, decodeParts_cons nonempty decoded one,
    rest]
  rfl

/-- A line that goes on with a segment is read as that segment and what comes after it. -/
lemma Fits.decodeRest_encodeOne (fits : s.Fits sources names) (small : r.Small)
    (continues : Continues text)
    (rest : decodeRest sources names bits (index + 1) line (encodeOne r s).2 ranges text =
      .ok found) :
    decodeRest sources names bits index line r ranges (',' :: ((encodeOne r s).1 ++ text)) =
      .ok ({ s with line := line, isRange := bits.getD index false } :: found) := by
  obtain ⟨numbers, decoded, one⟩ :=
    fits.ofNumbers_decode_encodeOne line (bits.getD index false) small
  obtain ⟨lines, parts⟩ :=
    splitAt_segment (fun c mem => mem_base64Digits_of_mem_encodeOne mem) continues
  unfold decodeRest at rest ⊢
  rw [splitAt_comma, lines, List.headD_cons, List.headD_cons, splitAt_separator, List.tail_cons,
    List.tail_cons, List.tail_cons, parts, decodeParts_cons (encodeOne_ne_nil r s) decoded one,
    rest]
  rfl

/-- Reading on with a line below. -/
lemma decodeRest_newline (k : Nat) :
    decodeRest sources names bits index line r ranges (List.replicate (k + 1) ';' ++ text) =
      decodeLines sources names (splitAt ';' text) (ranges.drop k) (line + (k + 1)) r := by
  unfold decodeRest
  rw [splitAt_replicate, List.replicate_succ, List.cons_append, List.headD_cons, List.tail_cons,
    Nat.add_comm k 1, ← Nat.add_assoc, ← decodeLines_replicate]
  unfold decodeParts
  simp only [splitAt, List.tail_cons, decodeLine, bind, Except.bind, pure, Except.pure,
    List.nil_append]
  cases decodeLines sources names (List.replicate k [] ++ splitAt ';' text) ranges (line + 1) r <;>
    rfl

end Rest

end ScriptMaps.SourceMap.Segment
