import ScriptMaps.Proofs.Files.Naming
import ScriptMaps.Proofs.Pipeline.Handling
import ScriptMaps.Proofs.SourceMap.Documents

/-!
# Results of a run

What a script of a batch becomes, found again among all that a run put out: the call that was made
for it, the files of its block, and the map that is located for it when the results are taken as a
batch themselves (`Handles.parsedMap_output`). The engine has to make maps exactly when it is asked
for them, and only maps that can be written and read again.
-/

namespace ScriptMaps

open ScriptMaps.SourceMap (Document)
open ScriptMaps.FileName (mapName resultNames outputNames)

/-- The names of files. -/
def namesOf (files : List OutputFile) : List String := files.map (·.name)

/-- A call was answered honestly if a map was made exactly if one was asked for, and one that can be
written and read again. -/
structure EngineCall.Honest (call : EngineCall) : Prop where
  asked : ∀ output, call.answer = .ok output → output.map.isSome = call.options.sourceMaps
  readable : ∀ output, call.answer = .ok output →
    ∀ d ∈ output.map, d.Valid Json.Number.IsReadable

/-! ## Maps of scripts -/

section Maps

variable {file mapFile : OutputFile} {batch : List OutputFile}
variable {found : Option (OutputFile × Document)} {output : TransformOutput}

/-- The map of a script is the first file with its name. -/
lemma locateMap_eq (script : file.kind = .script) :
    file.locateMap batch = batch.find? (·.name == mapName file.name) := by
  unfold OutputFile.locateMap
  rw [FileName.hasEnding_mapSuffix script]
  rfl

/-- A map that is found for a file is the one that is located, and the text of it was read. -/
lemma parsedMap_eq_ok (h : parsedMap file batch = .ok found) :
    found.map (·.1) = file.locateMap batch ∧ ∀ x ∈ found, Document.parse x.1.text = .ok x.2 := by
  unfold parsedMap at h
  split at h
  case h_1 none =>
    cases h
    exact ⟨none.symm, nofun⟩
  case h_2 mapFile located =>
    split at h
    case h_1 d parsed =>
      cases h
      refine ⟨located.symm, ?_⟩
      rintro _ ⟨⟩
      exact parsed
    case h_2 => cases h

/-- A map is found for a script exactly if there is a file with its name. -/
lemma isSome_found (script : file.kind = .script) (h : parsedMap file batch = .ok found) :
    found.isSome ↔ mapName file.name ∈ namesOf batch := by
  have located := (parsedMap_eq_ok h).1
  rw [locateMap_eq script] at located
  rw [← Option.isSome_map, located, List.find?_isSome, namesOf, List.mem_map]
  simp

/-- A located map has the name of the map of the script. -/
lemma name_of_found (script : file.kind = .script) (h : parsedMap file batch = .ok found)
    (mem : mapFile ∈ found.map (·.1)) : mapFile.name = mapName file.name ∧ mapFile ∈ batch := by
  rw [(parsedMap_eq_ok h).1, locateMap_eq script] at mem
  exact ⟨by simpa using List.find?_some mem, List.mem_of_find?_eq_some mem⟩

/-- The names of the files a script becomes. -/
lemma namesOf_resultFiles (script : file.kind = .script) (h : parsedMap file batch = .ok found)
    (asked : output.map.isSome = found.isSome) :
    namesOf (resultFiles file (found.map (·.1)) output) =
      resultNames (namesOf batch) file.name := by
  have has := isSome_found script h
  have kind : FileName.kind file.name = .script := script
  unfold resultNames
  rw [kind]
  dsimp only
  cases found with
  | none =>
    rw [if_neg fun map => nomatch has.2 map]
    rfl
  | some x =>
    obtain ⟨d, made⟩ := Option.isSome_iff_exists.1 asked
    have name := (name_of_found script h rfl).1
    rw [if_pos (has.1 rfl), ← name]
    simp [resultFiles, made, namesOf, OutputFile.withText]

/-- The only file with a name is found under it. -/
lemma find?_name {files : List OutputFile} (distinct : (namesOf files).Nodup) (mem : file ∈ files) :
    files.find? (·.name == file.name) = some file := by
  induction files with
  | nil => exact absurd mem List.not_mem_nil
  | cons first files ih =>
    obtain ⟨notAgain, distinct⟩ := List.nodup_cons.1 distinct
    obtain rfl | mem := List.mem_cons.1 mem
    · rw [List.find?_cons_of_pos (by simp)]
    · have different : first.name ≠ file.name :=
        fun same => notAgain (List.mem_map.2 ⟨file, mem, same.symm⟩)
      rw [List.find?_cons_of_neg (by simpa using different)]
      exact ih distinct mem

/-- The map that is found for a script among files with distinct names. -/
lemma parsedMap_of_mem (script : file.kind = .script) (distinct : (namesOf batch).Nodup)
    (mem : mapFile ∈ batch) (name : mapFile.name = mapName file.name) {d : Document}
    (parsed : Document.parse mapFile.text = .ok d) :
    parsedMap file batch = .ok (some (mapFile, d)) := by
  unfold parsedMap
  rw [locateMap_eq script, ← name, find?_name distinct mem]
  dsimp only
  rw [parsed]

/-- No map is found for a script if there is no file with its name. -/
lemma parsedMap_of_not_mem (script : file.kind = .script)
    (missing : mapName file.name ∉ namesOf batch) : parsedMap file batch = .ok none := by
  have nowhere : batch.find? (·.name == mapName file.name) = none := by
    refine List.find?_eq_none.2 fun other mem same => missing ?_
    exact List.mem_map.2 ⟨other, mem, by simpa using same⟩
  unfold parsedMap
  rw [locateMap_eq script, nowhere]

/-- A script is among the files it becomes. -/
lemma script_mem_resultFiles (file : OutputFile) (mapFile : Option OutputFile)
    (output : TransformOutput) :
    file.withText (scriptText file.name output) ∈ resultFiles file mapFile output := by
  unfold resultFiles
  split <;> exact List.mem_cons_self

/-- A script becomes itself with another text, and its map with another text. -/
lemma mem_resultFiles {result : OutputFile}
    (mem : result ∈ resultFiles file (found.map (·.1)) output) :
    result = file.withText (scriptText file.name output) ∨
      ∃ x ∈ found, ∃ d ∈ output.map, result = x.1.withText d.toJson := by
  unfold resultFiles at mem
  split at mem
  case h_1 mapFile d located made =>
    obtain ⟨x, rfl, rfl⟩ := Option.map_eq_some_iff.1 located
    obtain rfl | mem := List.mem_cons.1 mem
    · exact .inl rfl
    · exact .inr ⟨x, rfl, d, made, List.mem_singleton.1 mem⟩
  case h_2 => exact .inl (List.mem_singleton.1 mem)

/-- What a script becomes is a script and perhaps a map. -/
lemma kind_of_mem_resultFiles (script : file.kind = .script)
    (h : parsedMap file batch = .ok found) {result : OutputFile}
    (mem : result ∈ resultFiles file (found.map (·.1)) output) : result.kind ≠ .other := by
  obtain rfl | ⟨x, rfl, d, _, rfl⟩ := mem_resultFiles mem
  · intro other
    exact nomatch script.symm.trans other
  · have name := (name_of_found script h rfl).1
    intro other
    have map : FileName.kind x.1.name = .sourceMap := name ▸ FileName.kind_mapName _
    exact nomatch map.symm.trans other

end Maps

/-! ## Handled files -/

namespace Handles

variable {σ : Type} {p : Pipeline (StateM σ)} {batch files out : List OutputFile} {s s' : σ}
variable {calls : List EngineCall} {result : Except PipelineFault (List OutputFile)}

/-- Every call was made for a script with its text and its map, and the engine answered it. -/
lemma of_mem_calls (h : Handles p batch s files calls result s') {call : EngineCall}
    (mem : call ∈ calls) :
    ∃ file ∈ files, ∃ found, file.kind = .script ∧ parsedMap file batch = .ok found ∧
      call.code = file.text ∧ call.options = p.optionsFor file found ∧
      ∃ s s', (p.engine call.code call.options).run s = (call.answer, s') := by
  induction h with
  | done => exact absurd mem List.not_mem_nil
  | @script s s₁ s₂ file files found output calls result kind parsed answered _ ih =>
    obtain rfl | mem := List.mem_cons.1 mem
    · exact ⟨file, List.mem_cons_self, found, kind, parsed, rfl, rfl, s, s₁, answered⟩
    · obtain ⟨file, mem, spec⟩ := ih mem
      exact ⟨file, List.mem_cons_of_mem _ mem, spec⟩
  | unreadable => exact absurd mem List.not_mem_nil
  | @refused s s₁ file files found cause kind parsed answered =>
    obtain rfl := List.mem_singleton.1 mem
    exact ⟨file, List.mem_cons_self, found, kind, parsed, rfl, rfl, s, s₁, answered⟩
  | sourceMap _ _ ih | other _ _ ih =>
    obtain ⟨file, mem, spec⟩ := ih mem
    exact ⟨file, List.mem_cons_of_mem _ mem, spec⟩

/-- A run only fails because a map cannot be read or because the engine refuses a script. -/
lemma of_error {fault : PipelineFault}
    (h : Handles p batch s files calls (.error fault) s') :
    ∃ file ∈ files, file.kind = .script ∧
      (parsedMap file batch = .error fault ∨ ∃ cause, fault = .transform file.name cause) := by
  generalize e : Except.error fault = result at h
  induction h with
  | done => cases e
  | @script _ _ _ _ _ _ _ _ result _ _ _ _ ih =>
    cases result with
    | ok => cases e
    | error =>
      cases e
      obtain ⟨file, mem, spec⟩ := ih rfl
      exact ⟨file, List.mem_cons_of_mem _ mem, spec⟩
  | @unreadable _ file _ _ kind unread =>
    cases e
    exact ⟨file, List.mem_cons_self, kind, .inl unread⟩
  | @refused _ _ file _ _ cause kind _ _ =>
    cases e
    exact ⟨file, List.mem_cons_self, kind, .inr ⟨cause, rfl⟩⟩
  | sourceMap _ _ ih =>
    obtain ⟨file, mem, spec⟩ := ih e
    exact ⟨file, List.mem_cons_of_mem _ mem, spec⟩
  | @other _ _ _ _ _ result _ _ ih =>
    cases result with
    | ok => cases e
    | error =>
      cases e
      obtain ⟨file, mem, spec⟩ := ih rfl
      exact ⟨file, List.mem_cons_of_mem _ mem, spec⟩

/-- The names of what files become. -/
lemma namesOf_output (h : Handles p batch s files calls (.ok out) s')
    (honest : ∀ call ∈ calls, call.Honest) :
    namesOf out = (namesOf files).flatMap (resultNames (namesOf batch)) := by
  induction h using Handles.ok_induction with
  | done => rfl
  | @script _ _ _ file files found output _ _ kind parsed _ _ ih =>
    obtain ⟨first, others⟩ := List.forall_mem_cons.1 honest
    have asked : output.map.isSome = found.isSome :=
      (first.asked output rfl).trans Option.isSome_map
    have block := namesOf_resultFiles kind parsed asked
    have more := ih others
    unfold namesOf at block more ⊢
    rw [List.map_append, List.map_cons, List.flatMap_cons, block, more]
  | @sourceMap _ _ file _ _ _ kind _ ih =>
    have kind : FileName.kind file.name = .sourceMap := kind
    have more := ih honest
    unfold namesOf at more ⊢
    rw [more, List.map_cons, List.flatMap_cons, resultNames, kind]
    rfl
  | @other _ _ file _ _ _ kind _ ih =>
    have kind : FileName.kind file.name = .other := kind
    have more := ih honest
    unfold namesOf at more ⊢
    rw [List.map_cons, List.map_cons, List.flatMap_cons, more, resultNames, kind]
    rfl

/-- The results of files with distinct names have distinct names. -/
lemma nodup_output (h : Handles p batch s batch calls (.ok out) s')
    (honest : ∀ call ∈ calls, call.Honest) (distinct : (namesOf batch).Nodup) :
    (namesOf out).Nodup := by
  have names : namesOf out = outputNames (namesOf batch) := h.namesOf_output honest
  exact names ▸ FileName.nodup_outputNames distinct

/-- Files that are neither scripts nor maps are passed on as they are. -/
lemma others_output (h : Handles p batch s files calls (.ok out) s') :
    out.filter (·.kind == .other) = files.filter (·.kind == .other) := by
  induction h using Handles.ok_induction with
  | done => rfl
  | @script _ _ _ file _ found output _ _ kind parsed _ _ ih =>
    have none : (resultFiles file (found.map (·.1)) output).filter (·.kind == .other) = [] := by
      refine List.filter_eq_nil_iff.2 fun result mem => ?_
      simpa using kind_of_mem_resultFiles kind parsed mem
    rw [List.filter_append, none, ih, List.nil_append, List.filter_cons_of_neg (by simp [kind])]
  | sourceMap kind _ ih => rw [ih, List.filter_cons_of_neg (by simp [kind])]
  | other kind _ ih =>
    rw [List.filter_cons_of_pos (by simp [kind]), List.filter_cons_of_pos (by simp [kind]), ih]

/-- Of files with distinct names each script gets one call of the engine, with its text and its map,
and what it becomes is put out. -/
lemma calls_script (h : Handles p batch s files calls (.ok out) s')
    (distinct : (namesOf files).Nodup) {file : OutputFile} (mem : file ∈ files)
    (script : file.kind = .script) :
    ∃ found output, parsedMap file batch = .ok found ∧
      calls.filter (·.options.filename == some file.name) =
        [⟨file.text, p.optionsFor file found, .ok output⟩] ∧
      ∀ result ∈ resultFiles file (found.map (·.1)) output, result ∈ out := by
  induction h using Handles.ok_induction with
  | done => exact absurd mem List.not_mem_nil
  | @script _ _ _ first files found output calls _ kind parsed answered others ih =>
    obtain ⟨notAgain, distinct⟩ := List.nodup_cons.1 distinct
    obtain rfl | mem := List.mem_cons.1 mem
    · -- The other files have other names, and so have the calls that are made for them.
      have none : calls.filter (·.options.filename == some file.name) = [] := by
        refine List.filter_eq_nil_iff.2 fun call mem same => ?_
        obtain ⟨other, mem, _, _, _, _, options, _⟩ := others.of_mem_calls mem
        rw [options] at same
        have same : other.name = file.name := by
          simpa [Pipeline.optionsFor, fileOptions] using same
        exact notAgain (List.mem_map.2 ⟨other, mem, same⟩)
      refine ⟨found, output, parsed, ?_, fun result mem => List.mem_append_left _ mem⟩
      rw [List.filter_cons_of_pos (by simp [Pipeline.optionsFor, fileOptions]), none]
    · obtain ⟨found', output', parsed', one, block⟩ := ih distinct mem
      refine ⟨found', output', parsed', ?_,
        fun result mem => List.mem_append_right _ (block result mem)⟩
      have different : first.name ≠ file.name :=
        fun same => notAgain (List.mem_map.2 ⟨file, mem, same.symm⟩)
      rw [List.filter_cons_of_neg
        (by simpa [Pipeline.optionsFor, fileOptions] using different), one]
  | sourceMap kind _ ih =>
    obtain ⟨_, distinct⟩ := List.nodup_cons.1 distinct
    obtain rfl | mem := List.mem_cons.1 mem
    · exact nomatch script.symm.trans kind
    · exact ih distinct mem
  | other kind _ ih =>
    obtain ⟨_, distinct⟩ := List.nodup_cons.1 distinct
    obtain rfl | mem := List.mem_cons.1 mem
    · exact nomatch script.symm.trans kind
    · obtain ⟨found, output, parsed, one, block⟩ := ih distinct mem
      exact ⟨found, output, parsed, one,
        fun result mem => List.mem_cons_of_mem _ (block result mem)⟩

/-- Of files with distinct names each script gets one call, and what it becomes is put out. When the
results are taken as a batch, the map that is found for it is the one the engine made, as it is read
again. -/
lemma parsedMap_output (h : Handles p batch s batch calls (.ok out) s')
    (distinct : (namesOf batch).Nodup) (honest : ∀ call ∈ calls, call.Honest) {file : OutputFile}
    (mem : file ∈ batch) (script : file.kind = .script) :
    ∃ found output found', parsedMap file batch = .ok found ∧
      calls.filter (·.options.filename == some file.name) =
        [⟨file.text, p.optionsFor file found, .ok output⟩] ∧
      file.withText (scriptText file.name output) ∈ out ∧
      (mapName file.name ∈ namesOf out ↔ output.map.isSome) ∧
      parsedMap (file.withText (scriptText file.name output)) out = .ok found' ∧
      found'.map (·.2) = output.map.map Document.reread := by
  obtain ⟨found, output, parsed, one, block⟩ := h.calls_script distinct mem script
  have call := honest _ (List.mem_of_mem_filter (one.symm ▸ List.mem_singleton_self _))
  -- A map is asked for exactly if there was one, and only then is one made.
  have asked : output.map.isSome = found.isSome :=
    (call.asked output rfl).trans Option.isSome_map
  have names : namesOf out = outputNames (namesOf batch) := h.namesOf_output honest
  have distinctOut : (namesOf out).Nodup := h.nodup_output honest distinct
  have same : mapName file.name ∈ namesOf out ↔ mapName file.name ∈ namesOf batch :=
    names ▸ FileName.mapName_mem_outputNames script (List.mem_map.2 ⟨file, mem, rfl⟩)
  have has := isSome_found script parsed
  have emitted := block _ (script_mem_resultFiles file _ output)
  have made : mapName file.name ∈ namesOf out ↔ output.map.isSome := by rw [same, ← has, asked]
  cases map : output.map with
  | none =>
    have missing : mapName file.name ∉ namesOf out := by simp [made, map]
    exact ⟨found, output, none, parsed, one, emitted, by rw [made, map],
      parsedMap_of_not_mem script missing, by rw [map]; rfl⟩
  | some d =>
    obtain ⟨⟨mapFile, input⟩, rfl⟩ := Option.isSome_iff_exists.1 (asked.symm.trans (by simp [map]))
    have name := (name_of_found script parsed rfl).1
    have written : mapFile.withText d.toJson ∈ out := block _ (by simp [resultFiles, map])
    have readAgain := Document.parse_toJson (call.readable output rfl d map)
    exact ⟨_, output, some (mapFile.withText d.toJson, d.reread), parsed, one, emitted,
      by rw [made, map], parsedMap_of_mem script distinctOut written name readAgain,
      by rw [map]; rfl⟩

/-- When the results of a run are taken as a batch, the map of every script can be read. -/
lemma parsedMap_of_mem_output (h : Handles p batch s batch calls (.ok out) s')
    (distinct : (namesOf batch).Nodup) (honest : ∀ call ∈ calls, call.Honest) {file : OutputFile}
    (mem : file ∈ out) (script : file.kind = .script) :
    ∃ found, parsedMap file out = .ok found := by
  have names : namesOf out = outputNames (namesOf batch) := h.namesOf_output honest
  have distinctOut : (namesOf out).Nodup := h.nodup_output honest distinct
  have noMap : FileName.kind file.name ≠ .sourceMap := fun map => nomatch script.symm.trans map
  have known : file.name ∈ outputNames (namesOf batch) := names ▸ List.mem_map.2 ⟨file, mem, rfl⟩
  obtain ⟨before, memBefore, name⟩ := List.mem_map.1 ((FileName.mem_outputNames noMap).1 known)
  have scriptBefore : before.kind = .script := by
    rw [OutputFile.kind, name]
    exact script
  obtain ⟨_, output, found, _, _, emitted, _, parsed, _⟩ :=
    h.parsedMap_output distinct honest memBefore scriptBefore
  have same : file = before.withText (scriptText before.name output) :=
    List.inj_on_of_nodup_map distinctOut mem emitted name.symm
  exact ⟨found, same ▸ parsed⟩

/-- A run over the results of another fails only because the engine refuses a script. -/
lemma of_error_output (h : Handles p batch s batch calls (.ok out) s')
    (distinct : (namesOf batch).Nodup) (honest : ∀ call ∈ calls, call.Honest) {s₁ s₂ : σ}
    {fault : PipelineFault} (failed : (p.run out).run.run s₁ = (.error fault, s₂)) :
    ∃ file ∈ out, file.kind = .script ∧ ∃ cause, fault = .transform file.name cause := by
  obtain ⟨calls', result, s₃, handled, run⟩ := @handles_run _ p out s₁
  obtain rfl : result = .error fault := (Prod.ext_iff.1 (run.symm.trans failed)).1
  obtain ⟨file, mem, script, unread | refused⟩ := handled.of_error
  · obtain ⟨found, parsed⟩ := h.parsedMap_of_mem_output distinct honest mem script
    exact nomatch parsed.symm.trans unread
  · exact ⟨file, mem, script, refused⟩

end Handles

/-! ## Passes -/

/-- A pipeline is honest if all calls it ever makes are answered honestly. -/
def Pipeline.Honest {σ : Type} (p : Pipeline (StateM σ)) : Prop :=
  ∀ ⦃batch files calls result⦄ ⦃s s' : σ⦄, Handles p batch s files calls result s' →
    ∀ call ∈ calls, call.Honest

namespace Passed

variable {σ : Type} {p : Pipeline (StateM σ)} {batch : List OutputFile}
variable {pass : Pass} {passes : List Pass}

/-- Passes of an honest pipeline put out files of the same names. -/
lemma namesOf_output (h : Passed p batch passes) (honest : p.Honest) (mem : pass ∈ passes) :
    namesOf pass.output = outputNames (namesOf batch) := by
  induction h with
  | none => exact absurd mem List.not_mem_nil
  | one handled _ ih =>
    have names := handled.namesOf_output (honest handled)
    obtain rfl | mem := List.mem_cons.1 mem
    · exact names
    · rw [ih mem, names]
      exact FileName.outputNames_outputNames _

/-- Passes pass on the files that are neither scripts nor maps. -/
lemma others_output (h : Passed p batch passes) (mem : pass ∈ passes) :
    pass.output.filter (·.kind == .other) = batch.filter (·.kind == .other) := by
  induction h with
  | none => exact absurd mem List.not_mem_nil
  | one handled _ ih =>
    obtain rfl | mem := List.mem_cons.1 mem
    · exact handled.others_output
    · rw [ih mem, handled.others_output]

/-- After passes of an honest pipeline a run fails only because the engine refuses a script. -/
lemma of_error_output (h : Passed p batch passes) (honest : p.Honest)
    (distinct : (namesOf batch).Nodup) (mem : pass ∈ passes) {s s' : σ} {fault : PipelineFault}
    (failed : (p.run pass.output).run.run s = (.error fault, s')) :
    ∃ file ∈ pass.output, file.kind = .script ∧ ∃ cause, fault = .transform file.name cause := by
  induction h with
  | none => exact absurd mem List.not_mem_nil
  | one handled _ ih =>
    obtain rfl | mem := List.mem_cons.1 mem
    · exact handled.of_error_output distinct (honest handled) failed
    · exact ih (handled.nodup_output (honest handled) distinct) mem

end Passed

end ScriptMaps
