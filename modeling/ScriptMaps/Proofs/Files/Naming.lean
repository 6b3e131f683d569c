import ScriptMaps.Files.OutputFile
import Mathlib.Data.List.Nodup
import Mathlib.Data.List.TakeWhile
import Mathlib.Tactic

/-!
# Names of files and of results

A name is a directory and what comes after it, and the map of a script stands in the directory of
the script (`directory_append_mapName`).

The names of the files that a batch becomes are known from the names in the batch (`outputNames`): a
script keeps its name and is followed by its map, if it has one, and all other files but maps keep
theirs. What comes of that has the same names again (`outputNames_outputNames`).
-/

namespace ScriptMaps.FileName

/-- An ending is the ending of a name that it was put to. -/
lemma hasEnding_append (name ending : String) : hasEnding (name ++ ending) ending = true := by
  rw [hasEnding, String.toList_append, List.isSuffixOf_iff_suffix]
  exact List.suffix_append _ _

/-- A name ends in the character that an ending of it ends in. -/
lemma getLast?_of_hasEnding {name ending : String} {c : Char} (h : hasEnding name ending = true)
    (last : ending.toList.getLast? = some c) : name.toList.getLast? = some c := by
  rw [hasEnding, List.isSuffixOf_iff_suffix] at h
  obtain ⟨before, e⟩ := h
  rw [← e, List.getLast?_append, last, Option.some_or]

/-- A name has no two endings that end in different characters. -/
lemma hasEnding_eq_false {name a b : String} {c d : Char} (h : hasEnding name a = true)
    (lastA : a.toList.getLast? = some c) (lastB : b.toList.getLast? = some d) (different : c ≠ d) :
    hasEnding name b = false := by
  rw [← Bool.not_eq_true]
  intro h'
  have same := (getLast?_of_hasEnding h lastA).symm.trans (getLast?_of_hasEnding h' lastB)
  exact different (Option.some.inj same)

/-- The map of a file is a map. -/
lemma kind_mapName (name : String) : kind (mapName name) = .sourceMap := by
  have map : hasEnding (mapName name) mapSuffix = true := hasEnding_append name mapSuffix
  have plain : hasEnding (mapName name) ".js" = false :=
    hasEnding_eq_false map (show _ = some 'p' by decide) (show _ = some 's' by decide) (by decide)
  have markup : hasEnding (mapName name) ".jsx" = false :=
    hasEnding_eq_false map (show _ = some 'p' by decide) (show _ = some 'x' by decide) (by decide)
  simp [kind, scriptSuffixes, plain, markup, map]

/-- A script is no map. -/
lemma hasEnding_mapSuffix {name : String} (h : kind name = .script) :
    hasEnding name mapSuffix = false := by
  rw [← Bool.not_eq_true]
  intro map
  have plain : hasEnding name ".js" = false :=
    hasEnding_eq_false map (show _ = some 'p' by decide) (show _ = some 's' by decide) (by decide)
  have markup : hasEnding name ".jsx" = false :=
    hasEnding_eq_false map (show _ = some 'p' by decide) (show _ = some 'x' by decide) (by decide)
  simp [kind, scriptSuffixes, plain, markup, map] at h

/-- Different files have different maps. -/
lemma mapName_injective : Function.Injective mapName := by
  intro a b h
  have same := congrArg String.toList h
  rw [mapName, mapName, String.toList_append, String.toList_append, List.append_left_inj] at same
  exact String.toList_injective same

/-! ## Directories -/

/-- The directory in a name: all of it up to the last separator, which is part of it. -/
def directory (name : String) : String :=
  String.ofList (name.toList.reverse.dropWhile (!isSeparator ·)).reverse

/-- A name is its directory and what comes after that. -/
lemma directory_append_basename (name : String) : directory name ++ basename name = name := by
  rw [directory, basename, ← String.ofList_append, ← List.reverse_append,
    List.takeWhile_append_dropWhile, List.reverse_reverse, String.ofList_toList]

/-- What comes after the directory is part of the name. -/
lemma mem_of_mem_basename {name : String} {c : Char} (h : c ∈ (basename name).toList) :
    c ∈ name.toList := by
  rw [← directory_append_basename name, String.toList_append]
  exact List.mem_append_right _ h

/-- No separator comes after the directory. -/
lemma not_isSeparator_of_mem_basename {name : String} {c : Char}
    (h : c ∈ (basename name).toList) : isSeparator c = false := by
  rw [basename, String.toList_ofList, List.mem_reverse] at h
  simpa using List.mem_takeWhile_imp h

/-- The map of a script stands in the directory of the script. -/
lemma directory_append_mapName (name : String) :
    directory name ++ mapName (basename name) = mapName name := by
  rw [mapName, ← String.append_assoc, directory_append_basename, mapName]

/-! ## Names of results -/

/-- The names of the files that the file with a name becomes. -/
def resultNames (names : List String) (name : String) : List String :=
  match kind name with
  | .script => name :: if mapName name ∈ names then [mapName name] else []
  | .sourceMap => []
  | .other => [name]

/-- The names of the files that files with names become. -/
def outputNames (names : List String) : List String := names.flatMap (resultNames names)

section Names

variable {names : List String} {name result : String}

/-- A result has the name of the file it comes of, which is no map, or that of the map of it, which
is a script. -/
lemma mem_resultNames : result ∈ resultNames names name ↔
    (result = name ∧ kind name ≠ .sourceMap) ∨
      (result = mapName name ∧ kind name = .script ∧ mapName name ∈ names) := by
  unfold resultNames
  cases kind name with
  | script => by_cases map : mapName name ∈ names <;> simp [map]
  | sourceMap => simp
  | other => simp

/-- A script or another file keeps its name, and no other name is that of one. -/
lemma mem_outputNames (h : kind name ≠ .sourceMap) : name ∈ outputNames names ↔ name ∈ names := by
  rw [outputNames, List.mem_flatMap]
  constructor
  · rintro ⟨file, mem, of⟩
    obtain ⟨rfl, _⟩ | ⟨rfl, _, _⟩ := mem_resultNames.1 of
    · exact mem
    · exact absurd (kind_mapName file) h
  · intro mem
    exact ⟨name, mem, mem_resultNames.2 (.inl ⟨rfl, h⟩)⟩

/-- There is a map of a script among the results if there was one. -/
lemma mapName_mem_outputNames (script : kind name = .script) (mem : name ∈ names) :
    mapName name ∈ outputNames names ↔ mapName name ∈ names := by
  rw [outputNames, List.mem_flatMap]
  constructor
  · rintro ⟨file, _, of⟩
    obtain ⟨rfl, noMap⟩ | ⟨same, _, map⟩ := mem_resultNames.1 of
    · exact absurd (kind_mapName name) noMap
    · rwa [mapName_injective same]
  · intro map
    exact ⟨name, mem, mem_resultNames.2 (.inr ⟨rfl, script, map⟩)⟩

/-- What files with distinct names become has distinct names. -/
lemma nodup_outputNames (h : names.Nodup) : (outputNames names).Nodup := by
  refine List.nodup_flatMap.2 ⟨fun name _ => ?_, h.imp fun {a b} different => ?_⟩
  · unfold resultNames
    cases e : kind name with
    | script =>
      have other : name ≠ mapName name := by
        intro same
        rw [same, kind_mapName] at e
        cases e
      by_cases map : mapName name ∈ names <;> simp [map, other]
    | sourceMap => exact List.nodup_nil
    | other => exact List.nodup_singleton name
  · intro result ofA ofB
    obtain ⟨rfl, noMap⟩ | ⟨rfl, _, _⟩ := mem_resultNames.1 ofA
    · obtain ⟨rfl, _⟩ | ⟨rfl, _, _⟩ := mem_resultNames.1 ofB
      · exact different rfl
      · exact noMap (kind_mapName b)
    · obtain ⟨rfl, noMap⟩ | ⟨same, _, _⟩ := mem_resultNames.1 ofB
      · exact noMap (kind_mapName a)
      · exact different (mapName_injective same)

/-- What the results become has the same names again. -/
lemma outputNames_outputNames (names : List String) :
    outputNames (outputNames names) = outputNames names := by
  have again : ∀ name ∈ names,
      (resultNames names name).flatMap (resultNames (outputNames names)) =
        resultNames names name := by
    intro name mem
    cases e : kind name with
    | script =>
      have map := mapName_mem_outputNames e mem
      by_cases has : mapName name ∈ names <;>
        simp [resultNames, e, kind_mapName, map, has]
    | sourceMap => simp [resultNames, e]
    | other => simp [resultNames, e]
  calc outputNames (outputNames names)
    _ = names.flatMap fun name =>
        (resultNames names name).flatMap (resultNames (outputNames names)) := List.flatMap_assoc
    _ = outputNames names := List.flatMap_congr again

end Names

end ScriptMaps.FileName
