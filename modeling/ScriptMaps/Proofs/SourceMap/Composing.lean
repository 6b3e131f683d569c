import ScriptMaps.Proofs.SourceMap.Mappings
import ScriptMaps.Proofs.SourceMap.Rebasing
import ScriptMaps.Proofs.Json.Members

/-!
# Composed maps

A composed map has the sources and names of the map of the input, and its text can be read. Each of
its segments follows the two maps it was composed of (`compose_follows`), so that composing makes up
no origin.
-/

namespace ScriptMaps.SourceMap

open ScriptMaps.Json

/-- The segments that the texts of a document hold. -/
def Document.heldSegments (d : Document) : Except MapCause (List Segment) :=
  Segment.decode d.sources.length d.names.length d.mappings (textUnder d.extra "rangeMappings")

/-- The segments of a document are those that its texts hold. -/
lemma Document.heldSegments_of_segments {d : Document} {segments : List Segment}
    (h : d.segments = .ok segments) : d.heldSegments = .ok segments := by
  unfold Document.segments at h
  dsimp only at h
  split at h
  · cases h
  split at h
  · obtain ⟨_, _, h⟩ := Except.bind_eq_ok.1 h
    cases h
  · obtain ⟨found, read, h⟩ := Except.bind_eq_ok.1 h
    split at h
    · cases h
      exact read
    · cases h

/-- Sorted segments that are read from the text of a document without other keys are its segments.
-/
lemma Document.segments_of_decodeLines {d : Document} {segments : List Segment}
    (only : d.extra = []) (ordered : segments.Pairwise fun s t => Segment.atOrBefore s t)
    (read : Segment.decodeLines d.sources.length d.names.length
      (Segment.splitAt ';' d.mappings.toList) [[]] 0 {} = .ok segments) :
    d.segments = .ok segments := by
  have wellFormed : isWellFormed d.extra = true := by
    rw [only]
    rfl
  have held : d.heldSegments = .ok segments := by
    rw [← List.mergeSort_of_pairwise ordered]
    unfold Document.heldSegments Segment.decode
    rw [only]
    exact congrArg (· >>= fun found => .ok (Segment.sorted found)) read
  unfold Document.heldSegments at held
  unfold Document.segments
  dsimp only
  rw [wellFormed, held, only]
  rfl

/-- What is found under the keys of a document with segments of its own. -/
lemma find?_withSegments (d : Document) (segments : List Segment) (key : String) :
    (d.withSegments segments).extra.find? key =
      if key = "rangeMappings" then (Segment.encodeRangeMappings segments).map .string
      else if key = "ignoreList" then ignoreList d.extra
      else if key = "debugId" then (mapIdentifier d.extra).map .string
      else none := by
  have empty : Members.find? [] key = none := rfl
  unfold Document.withSegments
  simp only [Members.find?_insertSome, empty, Option.or_none]
  grind

/-- The ranges among segments are written under their key. -/
lemma textUnder_withSegments (d : Document) (segments : List Segment) :
    textUnder (d.withSegments segments).extra "rangeMappings" =
      (Segment.encodeRangeMappings segments).getD "" := by
  unfold textUnder Form.under
  rw [find?_withSegments, if_pos rfl]
  cases Segment.encodeRangeMappings segments <;> rfl

/-- The segments written into a document that they fit are read back, but for repetitions and for
which of them are ranges. -/
lemma heldSegments_withSegments {d : Document} {segments : List Segment}
    (fits : ∀ s ∈ segments, s.Fits d.sources.length d.names.length)
    (ordered : segments.Pairwise fun s t => Segment.atOrBefore s t) :
    ∃ found, (d.withSegments segments).heldSegments = .ok found ∧
      found.map Segment.plain = (segments.destutter Ne).map Segment.plain := by
  unfold Document.heldSegments
  rw [textUnder_withSegments]
  exact Segment.decode_encode_segments fits ordered (Segment.ranged_encodeRangeMappings segments)

/-- Rebased segments have the origins that inner segments have, so they fit what these fit. -/
lemma fits_of_mem_rebase {sources names : Nat} {ours theirs : List Segment}
    (bounded : ∀ s ∈ theirs, s.Bounded) (fits : ∀ s ∈ theirs, s.Fits sources names) :
    ∀ s ∈ rebase ours theirs, s.Fits sources names := by
  intro s mem
  obtain ⟨a, _, o, memO, rfl, _⟩ := exists_meeting_of_mem_rebase bounded mem
  have fit := fits o.segment (List.mem_mergeSort.1 (mem_of_mem_extents memO).1)
  have column : (moved o a).column < 2 ^ 32 := by
    rw [moved_eq]
    exact Segment.wrap32_lt _
  exact ⟨column, fit.source, fit.place, fit.name⟩

/-- A segment that follows two maps does so whether or not it is a range. -/
lemma follows_of_plain_eq {ours theirs : List Segment} {s t : Segment}
    (same : s.plain = t.plain) (h : Follows ours theirs t) : Follows ours theirs s := by
  have line : s.line = t.line := congrArg (·.line) same
  have column : s.column = t.column := congrArg (·.column) same
  have origin : s.origin = t.origin := congrArg (·.origin) same
  unfold Follows at h ⊢
  rwa [line, column, origin]

/-- The segments of a composed map can be read, and they follow the maps it was composed of. -/
theorem compose_follows {generated input result : Document} {ours theirs : List Segment}
    (composed : compose generated input = .ok result)
    (readGenerated : generated.segments = .ok ours) (readInput : input.segments = .ok theirs)
    (sourced : ∀ g ∈ ours, g.origin.isSome) (bounded : ∀ s ∈ ours ++ theirs, s.Bounded) :
    result.sources = input.sources ∧ result.names = input.names ∧
      ∃ segments, result.heldSegments = .ok segments ∧ ∀ s ∈ segments, Follows ours theirs s := by
  have result_eq : input.withSegments (rebase ours theirs) = result := by
    rw [compose, readGenerated, readInput] at composed
    exact Except.ok.inj composed
  subst result_eq
  refine ⟨rfl, rfl, ?_⟩
  have fits := @fits_of_mem_rebase _ _ ours theirs
    (fun s mem => bounded s (List.mem_append_right _ mem))
    (Segment.fits_of_decode (Document.heldSegments_of_segments readInput))
  obtain ⟨found, read, same⟩ := heldSegments_withSegments fits (pairwise_rebase ours theirs)
  refine ⟨found, read, fun s mem => ?_⟩
  have mem : s.plain ∈ (rebase ours theirs).map Segment.plain := by
    have sub := (List.destutter_sublist Ne (rebase ours theirs)).map Segment.plain
    exact sub.subset (same ▸ List.mem_map_of_mem mem)
  obtain ⟨t, moved, e⟩ := List.mem_map.1 mem
  exact follows_of_plain_eq e.symm (follows_of_mem_rebase sourced bounded moved)

/-- Code of two segments, the second of which begins inside a segment of the input's map. -/
theorem compose_follows_two_segments :
    let generated : Document := { sources := ["middle.js"], mappings := "AAAI,MACF" }
    let input : Document :=
      { sources := ["a.ts", "b.ts"], names := ["f"], mappings := "AAAAA,KCGC;ADID" }
    let ours : List Segment :=
      [⟨0, 0, some ⟨0, 0, 4, none⟩, false⟩, ⟨0, 6, some ⟨0, 1, 2, none⟩, false⟩]
    let theirs : List Segment :=
      [⟨0, 0, some ⟨0, 0, 0, some 0⟩, false⟩, ⟨0, 5, some ⟨1, 3, 1, none⟩, false⟩,
        ⟨1, 0, some ⟨0, 7, 0, none⟩, false⟩]
    let result := input.withSegments (rebase ours theirs)
    compose generated input = .ok result ∧ generated.segments = .ok ours ∧
      input.segments = .ok theirs ∧ (∀ g ∈ ours, g.origin.isSome) ∧
      (∀ s ∈ ours ++ theirs, s.Bounded) ∧ result.sources = ["a.ts", "b.ts"] ∧
      ∃ segments, result.heldSegments = .ok segments ∧ ∀ s ∈ segments, Follows ours theirs s := by
  intro generated input ours theirs result
  have readGenerated : generated.segments = .ok ours :=
    Document.segments_of_decodeLines rfl (by decide) (by decide +kernel)
  have readInput : input.segments = .ok theirs :=
    Document.segments_of_decodeLines rfl (by decide) (by decide +kernel)
  have composed : compose generated input = .ok result := by
    rw [compose, readGenerated, readInput]
    rfl
  have sourced : ∀ g ∈ ours, g.origin.isSome := by decide
  have bounded : ∀ s ∈ ours ++ theirs, s.Bounded := by
    intro s mem
    simp only [ours, theirs, List.mem_append, List.mem_cons, List.not_mem_nil, or_false] at mem
    obtain (rfl | rfl) | rfl | rfl | rfl := mem <;>
      refine ⟨by decide, ?_⟩ <;> rintro o ⟨⟩ <;> decide
  obtain ⟨sources, _, held⟩ := compose_follows composed readGenerated readInput sourced bounded
  exact ⟨composed, readGenerated, readInput, sourced, bounded, sources, held⟩

end ScriptMaps.SourceMap
