import ScriptMaps.SourceMap.Compose
import ScriptMaps.Proofs.Except
import ScriptMaps.Proofs.SourceMap.Segments
import Mathlib.Data.List.Destutter

/-!
# Reading back mappings

The text of sorted segments is read back as these segments, in the same order, with what repeats the
segment before it left out (`decode_encode_segments`). Nothing else about the segments is lost but
which of them are ranges. In the other direction, whatever is read fits the sources and names that
it was read with (`fits_of_decode`), so that it can be written again.
-/

namespace ScriptMaps.SourceMap.Segment

open Vlq

/-- Each text holds the bits of a line. -/
def Ranged (ranges : List (List Char)) : Prop := ∀ text ∈ ranges, ∃ bits, rangeBits text = .ok bits

/-- The bits of the first line can be read. -/
lemma Ranged.headD {ranges : List (List Char)} (h : Ranged ranges) :
    ∃ bits, rangeBits (ranges.headD []) = .ok bits := by
  cases ranges with
  | nil => exact ⟨[], rfl⟩
  | cons text ranges => exact h text List.mem_cons_self

/-- The bits of the lines below can be read. -/
lemma Ranged.drop {ranges : List (List Char)} (h : Ranged ranges) (k : Nat) :
    Ranged (ranges.drop k) :=
  fun text mem => h text (List.mem_of_mem_drop mem)

/-- The bits of the lines below the first can be read. -/
lemma Ranged.tail {ranges : List (List Char)} (h : Ranged ranges) : Ranged ranges.tail :=
  fun text mem => h text (List.mem_of_mem_tail mem)

/-! ## Segments after a segment -/

section After

variable {sources names line : Nat} {r : Running} {p : Segment} {segments : List Segment}

/-- What is written after a segment does not begin with a digit. -/
lemma continues_encodeAfter (below : ∀ s ∈ segments, line ≤ s.line) :
    Continues (encodeAfter (some p) line r segments) := by
  induction segments generalizing p r with
  | nil => nofun
  | cons s segments ih =>
    have bound := below s List.mem_cons_self
    rw [encodeAfter]
    split
    case isTrue different =>
      have lower : s.line - line = (s.line - line - 1) + 1 := by
        have := bne_iff_ne.1 different
        omega
      rw [lower, List.replicate_succ]
      rintro c ⟨⟩
      exact .inr rfl
    case isFalse =>
      split
      · exact ih fun s mem => below s (List.mem_cons_of_mem _ mem)
      · rintro c ⟨⟩
        exact .inl rfl

/-- What is written after a segment is read as the segments it was written for, without those that
repeat the one before. -/
lemma decodeRest_encodeAfter {bits : List Bool} {index : Nat} {ranges : List (List Char)}
    (fits : ∀ s ∈ segments, s.Fits sources names) (small : r.Small)
    (ordered : segments.Pairwise (·.line ≤ ·.line)) (below : ∀ s ∈ segments, line ≤ s.line)
    (ranged : Ranged ranges) (own : p.line = line) :
    ∃ found,
      decodeRest sources names bits index line r ranges (encodeAfter (some p) line r segments) =
        .ok found ∧
      (p :: found).map plain = (segments.destutter' Ne p).map plain := by
  induction segments generalizing p line r bits index ranges with
  | nil => exact ⟨[], rfl, rfl⟩
  | cons s segments ih =>
    obtain ⟨first, later⟩ := List.pairwise_cons.1 ordered
    have fit := fits s List.mem_cons_self
    have others : ∀ s ∈ segments, s.Fits sources names :=
      fun s mem => fits s (List.mem_cons_of_mem _ mem)
    rw [encodeAfter]
    split
    case isTrue different =>
      -- The segment begins a line below, whose columns are counted anew.
      have different := bne_iff_ne.1 different
      have new : p ≠ s := fun e => different (e ▸ own)
      obtain ⟨k, lower⟩ : ∃ k, s.line = line + (k + 1) := by
        have := below s List.mem_cons_self
        exact ⟨s.line - line - 1, by omega⟩
      have anew : Running.Small { r with column := 0 } :=
        ⟨Nat.two_pow_pos 32, small.source, small.sourceLine, small.sourceColumn, small.name⟩
      obtain ⟨bits, hbits⟩ := (ranged.drop k).headD
      obtain ⟨found, rest, same⟩ := @ih s.line _ s bits 1 _ others
        (fit.small_encodeOne anew) later first (ranged.drop k).tail rfl
      refine ⟨{ s with isRange := bits.getD 0 false } :: found, ?_, ?_⟩
      · dsimp only
        rw [List.append_assoc, show s.line - line = k + 1 by omega, decodeRest_newline, ← lower]
        exact fit.decodeLines_encodeOne anew (continues_encodeAfter first) hbits rest
      · rw [List.destutter'_cons_pos _ new, List.map_cons, List.map_cons, List.map_cons, ← same]
        rfl
    case isFalse same =>
      have sameLine : s.line = line := by simpa using same
      split
      case isTrue repeats =>
        -- A segment that repeats the one before is not written.
        obtain rfl : p = s := by simpa using repeats
        rw [List.destutter'_cons_neg _ (not_not.2 rfl)]
        exact ih others small later (fun s mem => below s (List.mem_cons_of_mem _ mem)) ranged own
      case isFalse new =>
        have new : p ≠ s := by simpa using new
        have first : ∀ t ∈ segments, line ≤ t.line := fun t mem => sameLine ▸ first t mem
        obtain ⟨found, rest, same⟩ := @ih line _ s bits (index + 1) _ others
          (fit.small_encodeOne small) later first ranged sameLine
        refine ⟨{ s with line := line, isRange := bits.getD index false } :: found, ?_, ?_⟩
        · dsimp only
          rw [Option.isSome_some, if_pos rfl, List.append_assoc, List.singleton_append]
          exact fit.decodeRest_encodeOne small (continues_encodeAfter first) rest
        · rw [List.destutter'_cons_pos _ new, List.map_cons, List.map_cons, List.map_cons, ← same,
            List.map_cons]
          simp [plain, sameLine]

end After

/-! ## All segments -/

/-- The first segment comes after as many line ends as its line has lines above it. -/
lemma encodeAfter_none (s : Segment) (segments : List Segment) :
    encodeAfter none 0 {} (s :: segments) =
      List.replicate s.line ';' ++
        ((encodeOne {} s).1 ++ encodeAfter (some s) s.line (encodeOne {} s).2 segments) := by
  rw [encodeAfter]
  split
  case isTrue => exact List.append_assoc _ _ _
  case isFalse same =>
    have first : s.line = 0 := by simpa using same
    simp [first]

section All

variable {sources names : Nat} {ranges : List (List Char)} {segments : List Segment}

/-- What is written for segments is read as these segments. -/
lemma decodeLines_encode (fits : ∀ s ∈ segments, s.Fits sources names)
    (ordered : segments.Pairwise (·.line ≤ ·.line)) (ranged : Ranged ranges) :
    ∃ found,
      decodeLines sources names (splitAt ';' (encode segments).toList) ranges 0 {} = .ok found ∧
      found.map plain = (segments.destutter Ne).map plain := by
  rw [encode, String.toList_ofList]
  cases segments with
  | nil => exact ⟨[], rfl, rfl⟩
  | cons s segments =>
    obtain ⟨first, later⟩ := List.pairwise_cons.1 ordered
    have fit := fits s List.mem_cons_self
    have small : Running.Small {} := by constructor <;> exact Nat.two_pow_pos 32
    obtain ⟨bits, hbits⟩ := (ranged.drop s.line).headD
    obtain ⟨found, rest, same⟩ := @decodeRest_encodeAfter sources names _ _ s _ bits 1 _
      (fun s mem => fits s (List.mem_cons_of_mem _ mem)) (fit.small_encodeOne small) later first
      (ranged.drop s.line).tail rfl
    refine ⟨{ s with isRange := bits.getD 0 false } :: found, ?_, same⟩
    rw [encodeAfter_none, splitAt_replicate, decodeLines_replicate, Nat.zero_add]
    exact fit.decodeLines_encodeOne (r := {}) small (continues_encodeAfter first) hbits rest

/-- Segments that differ in being ranges alone are in the same order. -/
lemma pairwise_atOrBefore_of_map_plain {a b : List Segment} (same : a.map plain = b.map plain)
    (ordered : b.Pairwise fun s t => atOrBefore s t) : a.Pairwise fun s t => atOrBefore s t := by
  have forgets (l : List Segment) :
      (l.map plain).Pairwise (fun s t => atOrBefore s t) ↔
        l.Pairwise fun s t => atOrBefore s t := by
    rw [List.pairwise_map]
    rfl
  rw [← forgets, same, forgets]
  exact ordered

/-- The text of sorted segments is read back as these segments. -/
lemma decode_encode_segments {rangeMappings : String} (fits : ∀ s ∈ segments, s.Fits sources names)
    (ordered : segments.Pairwise fun s t => atOrBefore s t)
    (ranged : Ranged (splitAt ';' rangeMappings.toList)) :
    ∃ found, decode sources names (encode segments) rangeMappings = .ok found ∧
      found.map plain = (segments.destutter Ne).map plain := by
  have lines : segments.Pairwise (·.line ≤ ·.line) := by
    refine ordered.imp fun {s t} h => ?_
    simp only [atOrBefore, Bool.or_eq_true, decide_eq_true_eq, Bool.and_eq_true, beq_iff_eq] at h
    omega
  obtain ⟨found, read, same⟩ := decodeLines_encode fits lines ranged
  refine ⟨found, ?_, same⟩
  have ordered := pairwise_atOrBefore_of_map_plain same
    (ordered.sublist (List.destutter_sublist _ _))
  rw [decode, read]
  exact congrArg Except.ok (List.mergeSort_of_pairwise ordered)

end All

/-! ## The bits of ranges -/

/-- Digits hold bits. -/
lemma exists_rangeBits {text : List Char} (digits : ∀ c ∈ text, c ∈ base64Digits) :
    ∃ bits, rangeBits text = .ok bits := by
  induction text with
  | nil => exact ⟨[], rfl⟩
  | cons c text ih =>
    obtain ⟨bits, read⟩ := ih fun c mem => digits c (List.mem_cons_of_mem _ mem)
    have count : base64Digits.length = 64 := by decide +kernel
    have digit : base64Digits.idxOf c < 64 :=
      count ▸ List.idxOf_lt_length_of_mem (digits c List.mem_cons_self)
    have value : base64Value? c = some (base64Digits.idxOf c) := if_pos digit
    refine ⟨sixBits (base64Digits.idxOf c) ++ bits, ?_⟩
    rw [rangeBits, value, read]
    rfl

/-- The bits of a line are written in digits. -/
lemma mem_base64Digits_of_mem_encodeBits {fuel : Nat} {bits : List Bool} {c : Char}
    (h : c ∈ encodeBits fuel bits) : c ∈ base64Digits := by
  have digit (n : Nat) : base64Digit n ∈ base64Digits := by
    unfold base64Digit
    rw [List.getD_eq_getElem?_getD]
    cases e : base64Digits[n]? with
    | none => exact (by decide +kernel : 'A' ∈ base64Digits)
    | some d => exact List.mem_of_getElem? e
  induction fuel generalizing bits with
  | zero => cases h
  | succ fuel ih =>
    rw [encodeBits] at h
    split at h
    · cases h
    · obtain rfl | h := List.mem_cons.1 h
      · exact digit _
      · exact ih h

/-- The bits of the lines are written in digits, with semicolons between the lines. -/
lemma mem_encodeRanges {line index first : Nat} {indices : List Nat} {segments : List Segment}
    {c : Char} (h : c ∈ encodeRanges line index first indices segments) :
    c ∈ base64Digits ∨ c = ';' := by
  induction segments generalizing line index first indices with
  | nil =>
    rw [encodeRanges] at h
    split at h
    · cases h
    · exact .inl (mem_base64Digits_of_mem_encodeBits h)
  | cons s segments ih =>
    rw [encodeRanges] at h
    generalize (if s.isRange then (index - first) :: indices else indices) = indices at h
    split at h
    · rw [List.mem_append, List.mem_append] at h
      obtain (h | h) | h := h
      · split at h
        · cases h
        · exact .inl (mem_base64Digits_of_mem_encodeBits h)
      · exact .inr (List.eq_of_mem_replicate h)
      · exact ih h
    · exact ih h

/-- The text written for the ranges among segments can be read. -/
lemma ranged_encodeRangeMappings (segments : List Segment) :
    Ranged (splitAt ';' ((encodeRangeMappings segments).getD "").toList) := by
  intro text mem
  refine exists_rangeBits fun c hc => ?_
  obtain ⟨written, different⟩ := mem_of_mem_splitAt mem hc
  unfold encodeRangeMappings at written
  split at written
  · rw [Option.getD_some, String.toList_ofList] at written
    exact (mem_encodeRanges written).resolve_right different
  · cases written

/-! ## What is read -/

section Read

variable {sources names line : Nat}

/-- Computing in 32 bits gives numbers of 32 bits. -/
lemma wrap32_lt (n : Int) : wrap32 n < 2 ^ 32 := by
  unfold wrap32
  omega

/-- A number moved on is one of 32 bits. -/
lemma advance_lt (n : Nat) (difference : Int) : advance n difference < 2 ^ 32 := wrap32_lt _

/-- A segment that is read fits. -/
lemma fits_of_ofNumbers {isRange : Bool} {r r' : Running} {numbers : List Int} {s : Segment}
    (h : ofNumbers sources names line isRange r numbers = .ok (s, r')) :
    s.Fits sources names := by
  unfold ofNumbers at h
  split at h
  case h_1 => cases h
  case h_2 =>
    cases h
    exact ⟨advance_lt _ _, nofun, nofun, nofun⟩
  case h_3 =>
    dsimp only at h
    split at h
    · cases h
    split at h
    · cases h
    next known =>
    have known := Nat.lt_of_not_le known
    split at h
    · cases h
      refine ⟨advance_lt _ _, ?_, ?_, ?_⟩ <;> rintro o ⟨⟩
      · exact ⟨known, advance_lt _ _⟩
      · exact ⟨advance_lt _ _, advance_lt _ _⟩
      · nofun
    · split at h
      · cases h
      next knownName =>
      cases h
      refine ⟨advance_lt _ _, ?_, ?_, ?_⟩ <;> rintro o ⟨⟩
      · exact ⟨known, advance_lt _ _⟩
      · exact ⟨advance_lt _ _, advance_lt _ _⟩
      · rintro n ⟨⟩
        exact ⟨Nat.lt_of_not_le knownName, advance_lt _ _⟩
  case h_4 => cases h

/-- The segments that are read of a line fit. -/
lemma fits_of_decodeLine {bits : List Bool} {parts : List (List Char)} {index : Nat}
    {r r' : Running} {segments : List Segment}
    (h : decodeLine sources names line bits parts index r = .ok (segments, r')) :
    ∀ s ∈ segments, s.Fits sources names := by
  induction parts generalizing index r segments r' with
  | nil =>
    cases h
    exact List.forall_mem_nil _
  | cons part parts ih =>
    cases part with
    | nil => exact ih h
    | cons c part =>
      rw [decodeLine] at h
      · obtain ⟨numbers, _, h⟩ := Except.bind_eq_ok.1 h
        obtain ⟨⟨s, r⟩, one, h⟩ := Except.bind_eq_ok.1 h
        obtain ⟨⟨others, r⟩, rest, h⟩ := Except.bind_eq_ok.1 h
        cases h
        intro t mem
        obtain rfl | mem := List.mem_cons.1 mem
        · exact fits_of_ofNumbers one
        · exact ih rest t mem
      · exact List.cons_ne_nil c part

/-- The segments that are read fit. -/
lemma fits_of_decodeLines {lines ranges : List (List Char)} {r : Running} {segments : List Segment}
    (h : decodeLines sources names lines ranges line r = .ok segments) :
    ∀ s ∈ segments, s.Fits sources names := by
  induction lines generalizing ranges line r segments with
  | nil =>
    cases h
    exact List.forall_mem_nil _
  | cons text lines ih =>
    cases text with
    | nil => exact ih h
    | cons c text =>
      rw [decodeLines] at h
      · obtain ⟨bits, _, h⟩ := Except.bind_eq_ok.1 h
        obtain ⟨⟨found, r⟩, first, h⟩ := Except.bind_eq_ok.1 h
        obtain ⟨others, rest, h⟩ := Except.bind_eq_ok.1 h
        cases h
        intro s mem
        obtain mem | mem := List.mem_append.1 mem
        · exact fits_of_decodeLine first s mem
        · exact ih rest s mem
      · exact List.cons_ne_nil c text

/-- The segments of a map fit the sources and names they were read with. -/
lemma fits_of_decode {mappings rangeMappings : String} {segments : List Segment}
    (h : decode sources names mappings rangeMappings = .ok segments) :
    ∀ s ∈ segments, s.Fits sources names := by
  obtain ⟨found, read, h⟩ := Except.bind_eq_ok.1 h
  cases h
  intro s mem
  exact fits_of_decodeLines read s (List.mem_mergeSort.1 mem)

end Read

end ScriptMaps.SourceMap.Segment
