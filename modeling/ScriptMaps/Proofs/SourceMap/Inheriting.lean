import ScriptMaps.Proofs.SourceMap.Composing
import ScriptMaps.Proofs.SourceMap.Documents

/-!
# Inherited documents

A document inherits from another if it says of itself and of its sources what the other says, and
has the values of its other keys. Composing onto a document gives one that inherits from it, and so
does reading a document again.
-/

namespace ScriptMaps.SourceMap

open ScriptMaps.Json

namespace Document

/-- The keys that are written anew when segments are. -/
def libraryKeys : List String := ["debugId", "ignoreList", "rangeMappings"]

/-- A document inherits what another says of itself and of its sources, and its values of integers
under keys that are not written anew. -/
structure Inherits (d input : Document) : Prop where
  version : d.version = 3
  file : d.file = input.file
  sourceRoot : d.sourceRoot = input.sourceRoot
  sources : d.sources = input.sources
  extra : ∀ key v, key ∉ libraryKeys → v.IsWhole → input.extra.find? key = some v →
    d.extra.find? key = some v

/-- What is inherited from an heir is inherited from what that inherited from. -/
lemma Inherits.trans {d heir input : Document} (h : d.Inherits heir) (h' : heir.Inherits input) :
    d.Inherits input where
  version := h.version
  file := h.file.trans h'.file
  sourceRoot := h.sourceRoot.trans h'.sourceRoot
  sources := h.sources.trans h'.sources
  extra key v other whole found := h.extra key v other whole (h'.extra key v other whole found)

/-- What is found among members that are read again is what was found, read again. -/
lemma find?_rereadMembers (ms : Members) (key : String) :
    (Value.rereadMembers ms : Members).find? key = (ms.find? key).map Value.reread := by
  rw [Value.rereadMembers_eq_map, Members.find?, Members.find?, List.find?_map]
  simp [Function.comp_def]

/-- A document that is read again inherits what it inherited before. -/
lemma Inherits.reread {d input : Document} (h : d.Inherits input) : d.reread.Inherits input where
  version := h.version
  file := h.file
  sourceRoot := h.sourceRoot
  sources := h.sources
  extra key v other whole found := by
    rw [Document.reread, find?_rereadMembers, h.extra key v other whole found]
    exact congrArg some whole.reread_eq

/-! ## Documents that can be kept -/

section Valid

variable {numbers : Number → Prop} {d input : Document}

/-- A document with a value that may be missing put under another key can be kept. -/
lemma Valid.insertSome (valid : d.Valid numbers) {key : String} (unknown : key ∉ keys)
    {v : Option Value} (within : ∀ w ∈ v, w.Within numbers extraDepth) :
    Valid numbers { d with extra := d.extra.insertSome key v } := by
  cases v with
  | none => exact valid
  | some v => exact valid.insert unknown (within v rfl)

/-- A document with the keys of another that it does not have itself can be kept. -/
lemma Valid.withExtraOf (valid : d.Valid numbers) (validInput : input.Valid numbers) :
    (d.withExtraOf input).Valid numbers := by
  have put (ms : Members) (known : ∀ m ∈ ms, m.1 ∉ keys ∧ m.2.Within numbers extraDepth) :
      ∀ d : Document, d.Valid numbers → Valid numbers
        { d with extra := ms.foldl (fun found m => found.insertNew m.1 m.2) d.extra } := by
    induction ms with
    | nil => exact fun d valid => valid
    | cons m ms ih =>
      intro d valid
      obtain ⟨first, others⟩ := List.forall_mem_cons.1 known
      refine ih others { d with extra := d.extra.insertNew m.1 m.2 } ?_
      unfold Members.insertNew
      split
      · exact valid
      · exact valid.insert first.1 first.2
  exact put input.extra (fun m mem => ⟨validInput.unknown m mem, validInput.within m mem⟩) d valid

/-- A number in a sorted list after another was put in is that one or was there before. -/
lemma mem_insertNumber {n m : Nat} {ms : List Nat} (h : m ∈ insertNumber n ms) :
    m = n ∨ m ∈ ms := by
  induction ms with
  | nil => exact .inl (List.mem_singleton.1 h)
  | cons k ms ih =>
    rw [insertNumber] at h
    split at h
    case isTrue => exact List.mem_cons.1 h
    case isFalse =>
      split at h
      case isTrue => exact .inr h
      case isFalse =>
        obtain rfl | mem := List.mem_cons.1 h
        · exact .inr List.mem_cons_self
        · exact (ih mem).imp_right (List.mem_cons_of_mem _)

/-- The sources to be ignored are numbers of 32 bits. -/
lemma lt_of_mem_ignoredSources {extra : Members} {n : Nat} (h : n ∈ ignoredSources extra) :
    n < 2 ^ 32 := by
  have among (ns : List Nat) : ∀ m ∈ ns.foldr insertNumber [], m ∈ ns := by
    induction ns with
    | nil => exact fun m mem => mem
    | cons k ns ih =>
      intro m mem
      obtain rfl | mem := mem_insertNumber mem
      · exact List.mem_cons_self
      · exact List.mem_cons_of_mem _ (ih m mem)
  unfold ignoredSources at h
  split at h
  case h_1 elems _ =>
    obtain ⟨v, _, number⟩ := List.mem_filterMap.1 (among _ n h)
    unfold Form.natural32? at number
    split at number
    case h_1 k =>
      split at number
      case isTrue small =>
        cases number
        simp only [Bool.and_eq_true, decide_eq_true_eq] at small
        omega
      case isFalse => cases number
    case h_2 => cases number
  case h_2 => exact absurd h List.not_mem_nil

/-- The list of the sources to be ignored can be kept. -/
lemma within_ignoreList {extra : Members} {v : Value} (h : v ∈ ignoreList extra) :
    v.Within Number.IsStored extraDepth := by
  unfold ignoreList at h
  split at h
  case h_1 => cases h
  case h_2 =>
    cases h
    refine .array fun v mem => ?_
    obtain ⟨n, ignored, rfl⟩ := List.mem_map.1 mem
    have := lt_of_mem_ignoredSources ignored
    exact .number (.integer (by omega) (by omega))

/-- A document with segments of its own can be kept. -/
lemma valid_withSegments (d : Document) (segments : List Segment) :
    (d.withSegments segments).Valid Number.IsStored := by
  have empty : Valid Number.IsStored {} := ⟨by decide, List.Pairwise.nil, nofun, nofun⟩
  have text (s : Option String) :
      ∀ w ∈ s.map Value.string, w.Within Number.IsStored extraDepth := by
    intro w mem
    obtain ⟨s, _, rfl⟩ := Option.map_eq_some_iff.1 mem
    exact .string
  have first := empty.insertSome (by decide : "debugId" ∉ keys) (text (mapIdentifier d.extra))
  have second := first.insertSome (by decide : "ignoreList" ∉ keys)
    fun v (mem : v ∈ ignoreList d.extra) => within_ignoreList mem
  have third := second.insertSome (by decide : "rangeMappings" ∉ keys)
    (text (Segment.encodeRangeMappings segments))
  exact third.of_eq rfl rfl

end Valid

/-- Composing onto a document gives one that inherits from it, apart from what it says of itself. -/
lemma inherits_withExtraOf (input : Document) (segments : List Segment) :
    Inherits
      { (input.withSegments segments).withExtraOf input with
        file := input.file, sourceRoot := input.sourceRoot }
      input where
  version := rfl
  file := rfl
  sourceRoot := rfl
  sources := rfl
  extra key v other _ found := by
    have missing : (input.withSegments segments).extra.find? key = none := by
      simp only [libraryKeys, List.mem_cons, List.not_mem_nil, or_false, not_or] at other
      rw [find?_withSegments, if_neg other.2.2, if_neg other.2.1, if_neg other.1]
    rw [Document.withExtraOf, Members.find?_foldl_insertNew, missing, Option.none_or, found]

end Document

end ScriptMaps.SourceMap
