import ScriptMaps.Proofs.Pipeline.Results
import ScriptMaps.Proofs.SourceMap.Inheriting

/-!
# Provenance through passes

A pipeline of scripts hands on what a map says of where its script comes from: after any number of
passes the map of a script inherits from the map that came with it (`passes_inherit`).
-/

namespace ScriptMaps

open ScriptMaps.Json (Number)
open ScriptMaps.SourceMap (Document)
open ScriptMaps.FileName (mapName outputNames)

/-! ## Maps of transformed scripts -/

section Maps

variable {plugins : List Plugin} {text : String} {options : TransformOptions}
variable {generated d input : Document} {output : TransformOutput}

/-- The map of printed code is the generated one, or that composed onto the map of the text. -/
lemma scriptMap_eq_ok (h : scriptMap options generated = .ok d) :
    (options.inputSourceMap = none ∧
      d = { generated with file := options.sourceMapTarget, sourceRoot := options.sourceRoot }) ∨
    ∃ input segments, options.inputSourceMap = some input ∧
      d = { (input.withSegments segments).withExtraOf input with
        file := options.sourceMapTarget, sourceRoot := options.sourceRoot } := by
  unfold scriptMap at h
  dsimp only at h
  split at h
  case h_1 alone => exact .inl ⟨alone, (Except.ok.inj h).symm⟩
  case h_2 input given =>
    split at h
    case h_1 result composed =>
      unfold SourceMap.compose at composed
      obtain ⟨ours, _, composed⟩ := Except.bind_eq_ok.1 composed
      obtain ⟨theirs, _, composed⟩ := Except.bind_eq_ok.1 composed
      cases composed
      exact .inr ⟨input, _, given, (Except.ok.inj h).symm⟩
    case h_2 => cases h

/-- A script is transformed to code with a map exactly if one is asked for, and that is made of one
that is generated and has no other keys. -/
lemma transformScript_eq_ok (h : transformScript plugins text options = .ok output) :
    output.map.isSome = options.sourceMaps ∧
      ∀ d ∈ output.map, ∃ generated : Document, generated.version = 3 ∧ generated.extra = [] ∧
        scriptMap options generated = .ok d := by
  unfold transformScript at h
  obtain ⟨parsed, _, h⟩ := Except.bind_eq_ok.1 h
  dsimp only at h
  split at h
  case isTrue asked =>
    obtain ⟨map, made, h⟩ := Except.bind_eq_ok.1 h
    obtain ⟨d, map_eq, rfl⟩ := Except.map_eq_ok.1 made
    cases h
    refine ⟨asked.symm, ?_⟩
    rintro _ ⟨⟩
    exact ⟨_, rfl, rfl, map_eq⟩
  case isFalse notAsked =>
    cases h
    exact ⟨(Bool.eq_false_of_not_eq_true notAsked).symm, nofun⟩

/-- The map of a script can be kept if the map of the text can. -/
lemma valid_transformScript (h : transformScript plugins text options = .ok output)
    (validInput : ∀ input ∈ options.inputSourceMap, input.Valid Number.IsStored) :
    ∀ d ∈ output.map, d.Valid Number.IsStored := by
  intro d made
  obtain ⟨generated, version, extra, h⟩ := (transformScript_eq_ok h).2 d made
  have empty : Document.Valid Number.IsStored {} := ⟨by decide, List.Pairwise.nil, nofun, nofun⟩
  obtain ⟨_, rfl⟩ | ⟨input, segments, given, rfl⟩ := scriptMap_eq_ok h
  · exact empty.of_eq version extra
  · have composed := (input.valid_withSegments segments).withExtraOf (validInput input given)
    exact composed.of_eq rfl rfl

/-- The map of a script inherits from the map of the text, if the options are set from that. -/
lemma inherits_transformScript (h : transformScript plugins text options = .ok output)
    (given : options.inputSourceMap = some input) (target : options.sourceMapTarget = input.file)
    (root : options.sourceRoot = input.sourceRoot) : ∀ d ∈ output.map, d.Inherits input := by
  intro d made
  obtain ⟨generated, _, _, h⟩ := (transformScript_eq_ok h).2 d made
  obtain ⟨alone, _⟩ | ⟨input, segments, given', rfl⟩ := scriptMap_eq_ok h
  · exact nomatch given.symm.trans alone
  · obtain rfl := Option.some.inj (given.symm.trans given')
    rw [target, root]
    exact Document.inherits_withExtraOf _ segments

end Maps

/-! ## Passes of a pipeline of scripts -/

section Passes

variable {σ : Type} {p : Pipeline (StateM σ)} {plugins : List Plugin}
variable {batch files out : List OutputFile} {calls : List EngineCall} {passes : List Pass}
variable {result : Except PipelineFault (List OutputFile)} {s s' : σ}

/-- A pipeline of scripts is honest. -/
lemma honest_of_scriptEngine (engine : p.engine = scriptEngine plugins) : p.Honest := by
  intro batch files calls result s s' h call mem
  obtain ⟨file, _, found, _, parsed, _, options, _, _, answered⟩ := h.of_mem_calls mem
  rw [engine] at answered
  have answer : call.answer = transformScript plugins call.code call.options :=
    (Prod.ext_iff.1 answered).1.symm
  refine ⟨fun output made => ?_, fun output made d map => ?_⟩
  · exact (transformScript_eq_ok (answer.symm.trans made)).1
  · refine (valid_transformScript (answer.symm.trans made) ?_ d map).imp fun n h => h.isReadable
    rw [options]
    intro input given
    obtain ⟨x, rfl, rfl⟩ := Option.map_eq_some_iff.1 given
    exact Document.valid_of_parse ((parsedMap_eq_ok parsed).2 x rfl)

/-- The results of a pass hold a map for a script that inherits from the one that came with it. -/
lemma inherits_of_handles (engine : p.engine = scriptEngine plugins)
    (h : Handles p batch s batch calls (.ok out) s')
    (distinct : (namesOf batch).Nodup) {file mapFile : OutputFile} (mem : file ∈ batch)
    (script : file.kind = .script) {input : Document}
    (parsed : parsedMap file batch = .ok (some (mapFile, input))) :
    ∃ emitted ∈ out, emitted.name = file.name ∧ ∃ mapFile' d,
      parsedMap emitted out = .ok (some (mapFile', d)) ∧ d.Inherits input := by
  obtain ⟨found, output, found', parsed', one, emitted, _, readAgain, map⟩ :=
    h.parsedMap_output distinct (honest_of_scriptEngine engine h) mem script
  obtain rfl : some (mapFile, input) = found := Except.ok.inj (parsed.symm.trans parsed')
  have call := List.mem_of_mem_filter (one.symm ▸ List.mem_singleton_self _)
  obtain ⟨_, _, _, _, _, _, _, _, _, answered⟩ := h.of_mem_calls call
  rw [engine] at answered
  have answer := (Prod.ext_iff.1 answered).1
  have asked : output.map.isSome = true := (transformScript_eq_ok answer).1
  obtain ⟨d, some⟩ := Option.isSome_iff_exists.1 asked
  have inherits := inherits_transformScript answer rfl rfl rfl d some
  rw [some] at map
  obtain ⟨⟨mapFile', d'⟩, rfl, rfl⟩ := Option.map_eq_some_iff.1 map
  exact ⟨_, emitted, rfl, mapFile', _, readAgain, inherits.reread⟩

/-- The results of every pass hold a map for a script that inherits from the one that came with it.
-/
lemma inherits_of_passed (engine : p.engine = scriptEngine plugins) (h : Passed p batch passes)
    (distinct : (namesOf batch).Nodup) {file mapFile : OutputFile} (mem : file ∈ batch)
    (script : file.kind = .script) {input : Document}
    (parsed : parsedMap file batch = .ok (some (mapFile, input))) {pass : Pass}
    (memPass : pass ∈ passes) :
    ∃ emitted ∈ pass.output, emitted.name = file.name ∧ ∃ mapFile' d,
      parsedMap emitted pass.output = .ok (some (mapFile', d)) ∧ d.Inherits input := by
  induction h generalizing file mapFile input with
  | none => exact absurd memPass List.not_mem_nil
  | @one batch _ _ first _ handled _ ih =>
    obtain ⟨emitted, memOut, name, mapFile', d, parsed', inherits⟩ :=
      inherits_of_handles engine handled distinct mem script parsed
    obtain rfl | memPass := List.mem_cons.1 memPass
    · exact ⟨emitted, memOut, name, mapFile', d, parsed', inherits⟩
    · have distinctOut := handled.nodup_output (honest_of_scriptEngine engine handled) distinct
      -- What was put out for the script is a script of the same name, where the other passes go on.
      have script' : emitted.kind = .script := by
        rw [OutputFile.kind, name]
        exact script
      obtain ⟨last, memLast, name', mapFile'', d', parsed'', inherits'⟩ :=
        ih distinctOut memOut script' parsed' memPass
      exact ⟨last, memLast, name'.trans name, mapFile'', d', parsed'', inherits'.trans inherits⟩

end Passes

/-- Passes of a pipeline of scripts over a batch of files with distinct names, one of them the map
of a script and readable: each puts out a map of the script that can be read and inherits from the
one of the batch, without any of the known keys among its other ones; and a run over what one of
them put out never fails because a map cannot be read. -/
theorem passes_inherit {σ : Type} {p : Pipeline (StateM σ)} {plugins : List Plugin}
    (engine : p.engine = scriptEngine plugins) {batch : List OutputFile}
    (distinct : (batch.map (·.name)).Nodup) {n : Nat} {s s' : σ} {passes : List Pass}
    (h : (p.passes n batch).run.run s = (.ok passes, s')) {file mapFile : OutputFile}
    (mem : file ∈ batch) (script : file.kind = .script) (memMap : mapFile ∈ batch)
    (name : mapFile.name = mapName file.name) {input : Document}
    (parsed : Document.parse mapFile.text = .ok input) :
    passes.length = n ∧ ∀ pass ∈ passes,
      (∃ emitted ∈ pass.output, emitted.name = mapName file.name ∧
        ∃ d, Document.parse emitted.text = .ok d ∧ d.Inherits input ∧
          ∀ m ∈ d.extra, m.1 ∉ Document.keys) ∧
      ∀ s₁ s₂ fault, (p.run pass.output).run.run s₁ = (.error fault, s₂) →
        ∃ file ∈ pass.output, file.kind = .script ∧
          ∃ cause, fault = .transform file.name cause := by
  obtain ⟨passed, length⟩ := passed_of_passes h
  refine ⟨length, fun pass memPass => ⟨?_, fun s₁ s₂ fault failed => ?_⟩⟩
  · have found := parsedMap_of_mem script distinct memMap name parsed
    obtain ⟨emitted, memOut, nameOut, mapFile', d, parsed', inherits⟩ :=
      inherits_of_passed engine passed distinct mem script found memPass
    have script' : emitted.kind = .script := by
      rw [OutputFile.kind, nameOut]
      exact script
    obtain ⟨nameMap, memMap'⟩ := name_of_found script' parsed' rfl
    have readAgain := (parsedMap_eq_ok parsed').2 _ rfl
    exact ⟨mapFile', memMap', nameMap.trans (congrArg mapName nameOut), d, readAgain, inherits,
      (Document.valid_of_parse readAgain).unknown⟩
  · exact passed.of_error_output (honest_of_scriptEngine engine) distinct memPass failed

/-- Two passes over a script whose map has a key of its own. -/
theorem passes_inherit_key :
    let p : Pipeline (StateM Unit) := .new (scriptEngine Plugin.builtin) {}
    let file : OutputFile := ⟨"a.js", "debugger;f()", false⟩
    let mapFile : OutputFile :=
      ⟨"a.js.map", Document.toJson
        { sources := ["a.ts"], mappings := "AAAA", extra := [("key", .number (.integer 1))] },
        false⟩
    p.engine = scriptEngine Plugin.builtin ∧ ([file, mapFile].map (·.name)).Nodup ∧
    file.kind = .script ∧ mapFile.name = mapName file.name ∧
    ∃ input passes s', Document.parse mapFile.text = .ok input ∧
      (p.passes 2 [file, mapFile]).run.run () = (.ok passes, s') ∧ passes.length = 2 ∧
      ∀ pass ∈ passes, ∃ emitted ∈ pass.output, emitted.name = mapName file.name ∧
        ∃ d, Document.parse emitted.text = .ok d ∧ d.Inherits input ∧
          ∀ m ∈ d.extra, m.1 ∉ Document.keys := by
  intro p file mapFile
  have distinct : ([file, mapFile].map (·.name)).Nodup := by decide
  have script : file.kind = .script := by decide
  have readable : (Document.parse mapFile.text).toBool = true := by decide +kernel
  have succeeds : ((p.passes 2 [file, mapFile]).run.run ()).1.toBool = true := by decide +kernel
  obtain ⟨input, parsed⟩ := Except.exists_eq_ok readable
  obtain ⟨passes, s', run⟩ := Except.exists_eq_ok_mk succeeds
  obtain ⟨length, inherit⟩ := passes_inherit rfl distinct run List.mem_cons_self script
    (List.mem_cons_of_mem _ List.mem_cons_self) rfl parsed
  exact ⟨rfl, distinct, script, rfl, input, passes, s', parsed, run, length,
    fun pass mem => (inherit pass mem).1⟩

end ScriptMaps
