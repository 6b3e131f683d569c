import ScriptMaps.SourceMap.Rebase
import Mathlib.Tactic

/-!
# Where rebased segments come from

Rebasing puts a segment wherever its extent meets that of a segment of the generated map, and
nowhere else (`exists_meeting_of_mem_rebase`). The sweep looks at the extents of the inner map in
order and never goes back; that it finds meetings alone rests on their ends being in order too.
-/

namespace ScriptMaps.SourceMap

/-! ## Places -/

namespace Key

variable {a b c : Key}

/-- When a place is before another. -/
lemma lt_iff : lt a b = true ↔ a.1 < b.1 ∨ a.1 = b.1 ∧ a.2 < b.2 := by
  simp [lt]

/-- When a place is not after another. -/
lemma le_iff : le a b = true ↔ a.1 < b.1 ∨ a.1 = b.1 ∧ a.2 ≤ b.2 := by
  rw [le, Bool.not_eq_true', ← Bool.not_eq_true, lt_iff]
  omega

/-- A place is not after another unless the other is before it. -/
lemma le_iff_not_lt : le a b = true ↔ ¬ lt b a = true := by
  rw [le_iff, lt_iff]
  omega

/-- No place is before itself. -/
lemma le_refl (a : Key) : le a a := le_iff.2 (.inr ⟨rfl, Nat.le_refl _⟩)

/-- The order of places is transitive. -/
lemma le_trans (h : le a b) (k : le b c) : le a c := by
  rw [le_iff] at *
  omega

/-- The order of places is total. -/
lemma le_total (a b : Key) : le a b || le b a := by
  rw [Bool.or_eq_true, le_iff, le_iff]
  omega

/-- The earlier of two places is after neither. -/
lemma le_earlier : le c (earlier a b) ↔ le c a ∧ le c b := by
  unfold earlier
  split
  case isTrue h =>
    rw [lt_iff] at h
    simp only [le_iff]
    omega
  case isFalse h =>
    rw [lt_iff] at h
    simp only [le_iff]
    omega

/-- The earlier of two places is not after either of them. -/
lemma earlier_le (a b : Key) : le (earlier a b) a ∧ le (earlier a b) b :=
  le_earlier.1 (le_refl _)

end Key

/-! ## Extents -/

section Extents

variable {key : Segment → Key} {segments : List Segment} {e : Extent}

/-- An extent belongs to a segment and begins where that stands. -/
lemma mem_of_mem_extents (h : e ∈ extents key segments) :
    e.segment ∈ segments ∧ e.start = key e.segment := by
  induction segments with
  | nil => cases h
  | cons s segments ih =>
    obtain rfl | h := List.mem_cons.1 h
    · exact ⟨List.mem_cons_self, rfl⟩
    · exact ⟨List.mem_cons_of_mem _ (ih h).1, (ih h).2⟩

/-- An extent ends with its line at the latest. -/
lemma stop_le_of_mem_extents (h : e ∈ extents key segments) :
    Key.le e.stop (e.start.1, greatest32) := by
  induction segments with
  | nil => cases h
  | cons s segments ih =>
    obtain rfl | h := List.mem_cons.1 h
    · exact (Key.earlier_le _ _).2
    · exact ih h

/-- The extent of the first of sorted segments ends before all others. -/
lemma first_stop_le {s t : Segment}
    (ordered : segments.Pairwise fun s t => Key.le (key s) (key t)) (mem : t ∈ segments) :
    Key.le
      (Key.earlier ((segments.head?.map key).getD (greatest32, greatest32)) ((key s).1, greatest32))
      (key t) := by
  cases segments with
  | nil => cases mem
  | cons next segments =>
    have first := (Key.earlier_le (key next) ((key s).1, greatest32)).1
    obtain rfl | mem := List.mem_cons.1 mem
    · exact first
    · exact Key.le_trans first ((List.pairwise_cons.1 ordered).1 t mem)

/-- No segment stands inside the extent of another. -/
lemma not_inside_of_mem_extents (ordered : segments.Pairwise fun s t => Key.le (key s) (key t))
    (h : e ∈ extents key segments) {t : Segment} (mem : t ∈ segments) :
    Key.le (key t) e.start ∨ Key.le e.stop (key t) := by
  induction segments with
  | nil => cases h
  | cons s segments ih =>
    obtain ⟨first, later⟩ := List.pairwise_cons.1 ordered
    obtain rfl | h := List.mem_cons.1 h
    · obtain rfl | mem := List.mem_cons.1 mem
      · exact .inl (Key.le_refl _)
      · exact .inr (first_stop_le later mem)
    · obtain ⟨own, start⟩ := mem_of_mem_extents h
      obtain rfl | mem := List.mem_cons.1 mem
      · exact .inl (start ▸ first _ own)
      · exact ih later h mem

/-- An extent does not end before it begins. -/
lemma start_le_stop_of_mem_extents (ordered : segments.Pairwise fun s t => Key.le (key s) (key t))
    (bounded : ∀ s ∈ segments, (key s).1 ≤ greatest32 ∧ (key s).2 ≤ greatest32)
    (h : e ∈ extents key segments) : Key.le e.start e.stop := by
  induction segments with
  | nil => cases h
  | cons s segments ih =>
    obtain ⟨first, later⟩ := List.pairwise_cons.1 ordered
    obtain rfl | h := List.mem_cons.1 h
    · have bound := bounded s List.mem_cons_self
      have line : Key.le (key s) ((key s).1, greatest32) := Key.le_iff.2 (.inr ⟨rfl, bound.2⟩)
      refine Key.le_earlier.2 ⟨?_, line⟩
      cases segments with
      | nil =>
        refine Key.le_trans line (Key.le_iff.2 ?_)
        have := Nat.lt_or_eq_of_le bound.1
        exact this.imp id fun e => ⟨e, Nat.le_refl _⟩
      | cons next segments => exact first next List.mem_cons_self
    · exact ih later (fun s mem => bounded s (List.mem_cons_of_mem _ mem)) h

/-- Extents end in the order they begin in. -/
lemma pairwise_stop_extents (ordered : segments.Pairwise fun s t => Key.le (key s) (key t))
    (bounded : ∀ s ∈ segments, (key s).1 ≤ greatest32 ∧ (key s).2 ≤ greatest32) :
    (extents key segments).Pairwise fun a b => Key.le a.stop b.stop := by
  induction segments with
  | nil => exact List.Pairwise.nil
  | cons s segments ih =>
    have later := (List.pairwise_cons.1 ordered).2
    have bounded := fun s mem => bounded s (List.mem_cons_of_mem _ mem)
    refine List.pairwise_cons.2 ⟨fun e h => ?_, ih later bounded⟩
    obtain ⟨own, start⟩ := mem_of_mem_extents h
    have before := start_le_stop_of_mem_extents later bounded h
    exact Key.le_trans (start ▸ first_stop_le later own) before

end Extents

/-! ## Meetings -/

section Sweep

variable {adjustments inner : List Extent} {adjustment : Extent} {s : Segment}

/-- What is found meets the extent before its end. -/
lemma exists_of_mem_meetings (h : s ∈ (meetings adjustment inner).1) :
    ∃ o ∈ inner, s = moved o adjustment ∧ Key.lt o.start adjustment.stop := by
  induction inner with
  | nil => cases h
  | cons o inner ih =>
    rw [meetings] at h
    split at h
    case isTrue before =>
      split at h
      · exact ⟨o, List.mem_cons_self, List.mem_singleton.1 h, before⟩
      · obtain e | h := List.mem_cons.1 h
        · exact ⟨o, List.mem_cons_self, e, before⟩
        · obtain ⟨o, mem, found⟩ := ih h
          exact ⟨o, List.mem_cons_of_mem _ mem, found⟩
    case isFalse => cases h

/-- What is left to be looked at are the last ones of what there was. -/
lemma meetings_suffix (adjustment : Extent) (inner : List Extent) :
    (meetings adjustment inner).2 <:+ inner := by
  induction inner with
  | nil => exact List.suffix_rfl
  | cons o inner ih =>
    rw [meetings]
    split
    · split
      · exact List.suffix_rfl
      · exact List.IsSuffix.trans ih (List.suffix_cons o inner)
    · exact List.suffix_rfl

/-- Once the extents that end too early are passed over, none is left that does. -/
lemma stop_after_of_mem_dropWhile {start : Key}
    (ordered : inner.Pairwise fun a b => Key.le a.stop b.stop) {o : Extent}
    (h : o ∈ inner.dropWhile fun o => Key.le o.stop start) : Key.lt start o.stop := by
  induction inner with
  | nil => cases h
  | cons first inner ih =>
    obtain ⟨ends, ordered⟩ := List.pairwise_cons.1 ordered
    rw [List.dropWhile_cons] at h
    split at h
    case isTrue => exact ih ordered h
    case isFalse early =>
      have after : Key.lt start first.stop := by
        rwa [Key.le_iff_not_lt, not_not] at early
      obtain rfl | h := List.mem_cons.1 h
      · exact after
      · have later := ends o h
        rw [Key.lt_iff] at after ⊢
        rw [Key.le_iff] at later
        omega

/-- What the sweep finds are meetings. -/
lemma exists_of_mem_sweep (ordered : inner.Pairwise fun a b => Key.le a.stop b.stop)
    (h : s ∈ sweep adjustments inner) :
    ∃ a ∈ adjustments, ∃ o ∈ inner,
      s = moved o a ∧ Key.lt o.start a.stop ∧ Key.lt a.start o.stop := by
  induction adjustments generalizing inner with
  | nil => cases h
  | cons a adjustments ih =>
    have ahead := @List.dropWhile_suffix _ inner fun o => Key.le o.stop a.start
    obtain found | h := List.mem_append.1 h
    · obtain ⟨o, mem, e, before⟩ := exists_of_mem_meetings found
      exact ⟨a, List.mem_cons_self, o, ahead.subset mem, e, before,
        stop_after_of_mem_dropWhile ordered mem⟩
    · have rest := List.IsSuffix.trans (meetings_suffix a _) ahead
      obtain ⟨b, memb, o, memo, meet⟩ := ih (ordered.sublist rest.sublist) h
      exact ⟨b, List.mem_cons_of_mem _ memb, o, rest.subset memo, meet⟩

end Sweep

/-! ## Rebasing -/

/-- The line and column of a segment, and those it leads back to, are below `2 ^ 31`. -/
structure Segment.Bounded (s : Segment) : Prop where
  own : s.line < 2 ^ 31 ∧ s.column < 2 ^ 31
  origin : ∀ o ∈ s.origin, o.line < 2 ^ 31 ∧ o.column < 2 ^ 31

/-- A segment governs a place: it stands on the line of the place, not after it, and no segment
stands between them. -/
structure Governs (segments : List Segment) (s : Segment) (place : Key) : Prop where
  line : s.line = place.1
  column : s.column ≤ place.2
  last : ∀ t ∈ segments, Key.le (ownKey t) (ownKey s) ∨ Key.lt place (ownKey t)

/-- A segment follows two maps one after the other: some segment of the first stands on its line at
or before it, and it leads wherever a segment of the second leads that governs the place it is to be
found at in the text between. -/
def Follows (generated inner : List Segment) (s : Segment) : Prop :=
  ∃ g ∈ generated, ∃ p ∈ g.origin, ∃ o ∈ inner,
    g.line = s.line ∧ g.column ≤ s.column ∧
      Governs inner o (p.line, p.column + (s.column - g.column)) ∧ s.origin = o.origin

section Rebase

variable {generated inner : List Segment} {s : Segment}

/-- Sorting by places puts segments in the order of these. -/
lemma pairwise_mergeSort_le (key : Segment → Key) (segments : List Segment) :
    (segments.mergeSort fun s t => Key.le (key s) (key t)).Pairwise fun s t =>
      Key.le (key s) (key t) := by
  refine List.pairwise_mergeSort ?_ ?_ segments
  · intro s t u
    exact Key.le_trans
  · intro s t
    exact Key.le_total (key s) (key t)

/-- The order of segments is that of their places. -/
lemma atOrBefore_eq (s t : Segment) : Segment.atOrBefore s t = Key.le (ownKey s) (ownKey t) := by
  rw [Bool.eq_iff_iff, Key.le_iff]
  simp [Segment.atOrBefore, ownKey]

/-- Sorted segments stand in the order of their places. -/
lemma pairwise_sorted (segments : List Segment) :
    (Segment.sorted segments).Pairwise fun s t => Key.le (ownKey s) (ownKey t) := by
  rw [Segment.sorted, funext₂ atOrBefore_eq]
  exact pairwise_mergeSort_le ownKey segments

/-- A small number is not changed by computing in 32 bits. -/
lemma wrap32_natCast {n : Int} {k : Nat} (h : n = k) (small : k < 2 ^ 32) :
    Segment.wrap32 n = k := by
  unfold Segment.wrap32
  omega

/-- A meeting of two extents begins on the line on which the adjusting one begins, and the segment
of the other governs its beginning. -/
lemma governs_meeting {a o : Extent} (meets : Key.lt o.start a.stop ∧ Key.lt a.start o.stop)
    (memA : a ∈ extents sourceKey (generated.mergeSort leadsAtOrBefore))
    (memO : o ∈ extents ownKey (Segment.sorted inner)) :
    (Key.later o.start a.start).1 = a.start.1 ∧ a.start.2 ≤ (Key.later o.start a.start).2 ∧
      Governs inner o.segment (Key.later o.start a.start) := by
  have endA := Key.le_iff.1 (stop_le_of_mem_extents memA)
  have endO := Key.le_iff.1 (stop_le_of_mem_extents memO)
  have startO := (mem_of_mem_extents memO).2
  have beside (t : Segment) (mem : t ∈ inner) := not_inside_of_mem_extents
    (pairwise_sorted inner) memO (List.mem_mergeSort.2 mem)
  have lineO : o.segment.line = o.start.1 := by rw [startO, ownKey]
  have columnO : o.segment.column = o.start.2 := by rw [startO, ownKey]
  obtain ⟨before, after⟩ := meets
  rw [Key.lt_iff] at before after
  unfold Key.later
  split
  case isTrue cut =>
    -- The adjusting extent begins inside the other one.
    rw [Key.lt_iff] at cut
    refine ⟨rfl, Nat.le_refl _, by omega, by omega, fun t mem => ?_⟩
    rw [← startO]
    refine (beside t mem).imp id fun beyond => ?_
    rw [Key.le_iff] at beyond
    rw [Key.lt_iff]
    omega
  case isFalse whole =>
    rw [Key.lt_iff] at whole
    refine ⟨by omega, by omega, by omega, by omega, fun t mem => ?_⟩
    rw [← startO, Key.lt_iff, Key.le_iff]
    omega

/-- What a moved segment is made of. -/
lemma moved_eq (o a : Extent) :
    moved o a = { o.segment with
      line := Segment.wrap32
        (((Key.later o.start a.start).1 : Int) + a.segment.line - (sourceKey a.segment).1)
      column := Segment.wrap32
        (((Key.later o.start a.start).2 : Int) + a.segment.column - (sourceKey a.segment).2) } :=
  rfl

/-- A segment moved to where its extent meets another follows the two maps. -/
lemma follows_moved {a o : Extent} (sourced : ∀ g ∈ generated, g.origin.isSome)
    (bounded : ∀ s ∈ generated ++ inner, s.Bounded)
    (meets : Key.lt o.start a.stop ∧ Key.lt a.start o.stop)
    (memA : a ∈ extents sourceKey (generated.mergeSort leadsAtOrBefore))
    (memO : o ∈ extents ownKey (Segment.sorted inner)) :
    Follows generated inner (moved o a) := by
  obtain ⟨line, column, governs⟩ := governs_meeting meets memA memO
  obtain ⟨ownA, startA⟩ := mem_of_mem_extents memA
  obtain ⟨ownO, startO⟩ := mem_of_mem_extents memO
  have memG : a.segment ∈ generated := List.mem_mergeSort.1 ownA
  have memI : o.segment ∈ inner := List.mem_mergeSort.1 ownO
  obtain ⟨boundG, boundP⟩ := bounded a.segment (List.mem_append_left _ memG)
  have boundO := (bounded o.segment (List.mem_append_right _ memI)).own
  obtain ⟨p, hp⟩ := Option.isSome_iff_exists.1 (sourced _ memG)
  replace boundP := boundP p hp
  have source : sourceKey a.segment = (p.line, p.column) := by rw [sourceKey, hp]
  have start : a.start = (p.line, p.column) := startA.trans source
  replace line := line.trans (congrArg Prod.fst start)
  replace column := Nat.le_trans (Nat.le_of_eq (congrArg Prod.snd start).symm) column
  dsimp only at line column
  -- All numbers are small, so nothing wraps around when they are moved in 32 bits.
  have small : (Key.later o.start a.start).2 < 2 ^ 31 := by
    unfold Key.later
    split
    · rw [start]
      exact boundP.2
    · rw [startO]
      exact boundO.2
  have movedLine : (moved o a).line = a.segment.line := by
    rw [moved_eq, source]
    refine wrap32_natCast ?_ (by omega)
    dsimp only
    omega
  have movedColumn :
      (moved o a).column = a.segment.column + ((Key.later o.start a.start).2 - p.column) := by
    rw [moved_eq, source]
    refine wrap32_natCast ?_ (by omega)
    dsimp only
    omega
  have place : (p.line, p.column + ((moved o a).column - a.segment.column)) =
      Key.later o.start a.start := by
    refine Prod.ext line.symm ?_
    dsimp only
    omega
  refine ⟨a.segment, memG, p, hp, o.segment, memI, movedLine.symm, by omega, ?_, rfl⟩
  rwa [place]

/-- Rebased segments are put where extents meet. -/
lemma exists_meeting_of_mem_rebase (bounded : ∀ s ∈ inner, s.Bounded)
    (h : s ∈ rebase generated inner) :
    ∃ a ∈ extents sourceKey (generated.mergeSort leadsAtOrBefore),
      ∃ o ∈ extents ownKey (Segment.sorted inner),
        s = moved o a ∧ Key.lt o.start a.stop ∧ Key.lt a.start o.stop := by
  have columns : ∀ s ∈ Segment.sorted inner,
      (ownKey s).1 ≤ greatest32 ∧ (ownKey s).2 ≤ greatest32 := by
    intro s mem
    have bound := (bounded s (List.mem_mergeSort.1 mem)).own
    unfold ownKey greatest32
    omega
  exact exists_of_mem_sweep (pairwise_stop_extents (pairwise_sorted inner) columns)
    (List.mem_mergeSort.1 h)

/-- Rebased segments follow the two maps. -/
lemma follows_of_mem_rebase (sourced : ∀ g ∈ generated, g.origin.isSome)
    (bounded : ∀ s ∈ generated ++ inner, s.Bounded) (h : s ∈ rebase generated inner) :
    Follows generated inner s := by
  obtain ⟨a, memA, o, memO, rfl, meets⟩ := exists_meeting_of_mem_rebase
    (fun s mem => bounded s (List.mem_append_right _ mem)) h
  exact follows_moved sourced bounded meets memA memO

/-- Rebased segments are sorted. -/
lemma pairwise_rebase (generated inner : List Segment) :
    (rebase generated inner).Pairwise fun s t => Segment.atOrBefore s t := by
  refine (pairwise_sorted _).imp fun {s t} h => ?_
  rwa [atOrBefore_eq]

end Rebase

end ScriptMaps.SourceMap
