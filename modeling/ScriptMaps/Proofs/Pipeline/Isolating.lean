import ScriptMaps.Proofs.Pipeline.Accounting

/-!
# Parts of a batch

With a stateless engine, what a file becomes depends only on the file and on its map. So files of a
batch, in any order, give in a batch of their own the blocks that they give in the whole one, as
long as no script is parted from its map (`run_part`).
-/

namespace ScriptMaps

open ScriptMaps.SourceMap (Document)
open ScriptMaps.FileName (mapName)

variable {σ : Type}

/-- An engine that answers by the text and the options alone, and that no call changes. -/
def Engine.Stateless (engine : Engine (StateM σ)) : Prop :=
  ∃ answer : String → TransformOptions → Except EngineFault TransformOutput,
    ∀ code options s, (engine code options).run s = (answer code options, s)

variable {p : Pipeline (StateM σ)} {batch part files block out : List OutputFile}
variable {file mapFile : OutputFile} {blocks : List (List OutputFile)} {s s' s₁ : σ}

/-! ## What a block tells of the engine -/

/-- The block of a script is what the script becomes with the answer of the engine. -/
lemma Block.eq_resultFiles {found : Option (OutputFile × Document)}
    {answer : Except EngineFault TransformOutput} (h : Block p batch file s block s')
    (script : file.kind = .script) (parsed : parsedMap file batch = .ok found)
    (answered : (p.engine file.text (p.optionsFor file found)).run s = (answer, s₁)) :
    s' = s₁ ∧ ∃ output, answer = .ok output ∧
      block = resultFiles file (found.map (·.1)) output := by
  have located := (parsedMap_eq_ok parsed).1.trans (locateMap_eq script)
  -- The engine was asked with the same map, so it gave the same answer.
  have same {output : TransformOutput} (h : p.Answers batch file s output s') :
      s' = s₁ ∧ answer = .ok output := by
    obtain ⟨found', parsed', answered'⟩ := h
    obtain rfl := Except.ok.inj (parsed'.symm.trans parsed)
    obtain ⟨rfl, rfl⟩ := Prod.mk.inj (answered'.symm.trans answered)
    exact ⟨rfl, rfl⟩
  cases h with
  | other other => exact nomatch script.symm.trans other
  | sourceMap map => exact nomatch script.symm.trans map
  | plain _ answers made =>
    obtain ⟨state, rfl⟩ := same answers
    refine ⟨state, _, rfl, ?_⟩
    simp [resultFiles, scriptText, OutputFile.withText, made]
  | unpaired _ answers made missing =>
    obtain ⟨state, rfl⟩ := same answers
    refine ⟨state, _, rfl, ?_⟩
    have none : batch.find? (·.name == mapName file.name) = none :=
      List.find?_eq_none.2 fun other mem => by simpa using missing other mem
    simp [resultFiles, scriptText, OutputFile.withText, made, located, none]
  | paired _ answers made first =>
    obtain ⟨state, rfl⟩ := same answers
    refine ⟨state, _, rfl, ?_⟩
    simp [resultFiles, scriptText, OutputFile.withText, made, located, first.find?_eq]

/-- The map of a script that has a block could be read. -/
lemma Block.exists_found (h : Block p batch file s block s') (script : file.kind = .script) :
    ∃ found, parsedMap file batch = .ok found := by
  cases h with
  | other other => exact nomatch script.symm.trans other
  | sourceMap map => exact nomatch script.symm.trans map
  | plain _ answers | unpaired _ answers | paired _ answers =>
    obtain ⟨found, parsed, _⟩ := answers
    exact ⟨found, parsed⟩

/-- The block of a map is empty. -/
lemma Block.eq_nil (h : Block p batch file s block s') (map : file.kind = .sourceMap) :
    block = [] := by
  cases h with
  | sourceMap => rfl
  | other kind | plain kind | unpaired kind | paired kind => exact nomatch kind.symm.trans map

/-- The block of any other file is the file itself. -/
lemma Block.eq_singleton (h : Block p batch file s block s') (other : file.kind = .other) :
    block = [file] := by
  cases h with
  | other => rfl
  | sourceMap kind | plain kind | unpaired kind | paired kind =>
    exact nomatch kind.symm.trans other

/-! ## Stateless engines -/

/-- With a stateless engine a block is one from any state, and leaves it. -/
lemma Block.of_stateless (stateless : p.engine.Stateless) (h : Block p batch file s block s')
    (t : σ) : Block p batch file t block t := by
  obtain ⟨answer, spec⟩ := stateless
  have asked {output : TransformOutput} (h : p.Answers batch file s output s') :
      p.Answers batch file t output t := by
    obtain ⟨found, parsed, answered⟩ := h
    refine ⟨found, parsed, ?_⟩
    rw [spec] at answered ⊢
    obtain ⟨e, -⟩ := Prod.mk.inj answered
    rw [e]
  cases h with
  | other other => exact .other other
  | sourceMap map => exact .sourceMap map
  | plain script answers made => exact .plain script (asked answers) made
  | unpaired script answers made missing => exact .unpaired script (asked answers) made missing
  | paired script answers made first => exact .paired script (asked answers) made first

/-- With a stateless engine files are handled in the same way from any state, and leave it. -/
lemma Handles.of_stateless (stateless : p.engine.Stateless) {calls : List EngineCall}
    {result : Except PipelineFault (List OutputFile)}
    (h : Handles p batch s files calls result s') (t : σ) :
    Handles p batch t files calls result t := by
  obtain ⟨answer, spec⟩ := stateless
  have asked {code : String} {options : TransformOptions} {s s' : σ}
      {answer : Except EngineFault TransformOutput}
      (answered : (p.engine code options).run s = (answer, s')) :
      (p.engine code options).run t = (answer, t) := by
    rw [spec] at answered ⊢
    obtain ⟨e, -⟩ := Prod.mk.inj answered
    rw [e]
  induction h with
  | done => exact .done
  | script kind parsed answered _ ih => exact .script kind parsed (asked answered) ih
  | unreadable kind unread => exact .unreadable kind unread
  | refused kind parsed refused => exact .refused kind parsed (asked refused)
  | sourceMap kind _ ih => exact .sourceMap kind ih
  | other kind _ ih => exact .other kind ih

/-- With a stateless engine a run does the same from any state, and leaves it. -/
lemma run_of_stateless (stateless : p.engine.Stateless)
    {result : Except PipelineFault (List OutputFile)}
    (h : (p.run batch).run.run s = (result, s')) (t : σ) :
    (p.run batch).run.run t = (result, t) := by
  obtain ⟨_, _, _, handled, run⟩ := @handles_run _ p batch s
  obtain ⟨rfl, rfl⟩ := Prod.mk.inj (run.symm.trans h)
  obtain ⟨_, _, _, handled', run'⟩ := @handles_run _ p batch t
  obtain ⟨-, rfl, rfl⟩ := (handled.of_stateless stateless t).unique handled'
  exact run'

/-- With a stateless engine, files with distinct names have each their own block. -/
lemma Blocks.exists_forall (stateless : p.engine.Stateless) (h : Blocks p batch s files blocks s')
    (distinct : (namesOf files).Nodup) :
    ∃ block : OutputFile → List OutputFile,
      (∀ file ∈ files, ∀ t, Block p batch file t (block file) t) ∧ blocks = files.map block := by
  induction h with
  | none => exact ⟨fun _ => [], nofun, rfl⟩
  -- Names are distinct, so no file behind the first one is that file again.
  | @one s s₁ s₂ file files first blocks one _ ih =>
    obtain ⟨notAgain, distinct⟩ := List.nodup_cons.1 distinct
    obtain ⟨block, each, rfl⟩ := ih distinct
    have other : ∀ f ∈ files, f ≠ file := by
      rintro f mem rfl
      exact notAgain (List.mem_map_of_mem mem)
    refine ⟨Function.update block file first, fun f mem t => ?_, ?_⟩
    · obtain rfl | mem := List.mem_cons.1 mem
      · rw [Function.update_self]
        exact one.of_stateless stateless t
      · rw [Function.update_of_ne (other f mem)]
        exact each f mem t
    · rw [List.map_cons, Function.update_self]
      congr 1
      exact List.map_congr_left fun f mem => (Function.update_of_ne (other f mem) _ _).symm

/-- Files are handled in the same way in two batches in which the same maps are found for them. -/
lemma Handles.of_parsedMap {calls : List EngineCall}
    {result : Except PipelineFault (List OutputFile)} (h : Handles p part s files calls result s')
    (same : ∀ file ∈ files, file.kind = .script → parsedMap file part = parsedMap file batch) :
    Handles p batch s files calls result s' := by
  induction h with
  | done => exact .done
  | script kind parsed answered _ ih =>
    obtain ⟨first, same⟩ := List.forall_mem_cons.1 same
    exact .script kind ((first kind).symm.trans parsed) answered (ih same)
  | unreadable kind unread =>
    obtain ⟨first, _⟩ := List.forall_mem_cons.1 same
    exact .unreadable kind ((first kind).symm.trans unread)
  | refused kind parsed refused =>
    obtain ⟨first, _⟩ := List.forall_mem_cons.1 same
    exact .refused kind ((first kind).symm.trans parsed) refused
  | sourceMap kind _ ih => exact .sourceMap kind (ih (List.forall_mem_cons.1 same).2)
  | other kind _ ih => exact .other kind (ih (List.forall_mem_cons.1 same).2)

/-- Files that have blocks from any state are handled, and become their blocks. -/
lemma Handles.of_blocks {calls : List EngineCall}
    {result : Except PipelineFault (List OutputFile)} {block : OutputFile → List OutputFile}
    (h : Handles p batch s files calls result s')
    (each : ∀ file ∈ files, ∀ t, Block p batch file t (block file) t) :
    result = .ok (files.flatMap block) ∧ s' = s := by
  -- Files that cannot be read or are refused have no block, so these cases do not occur.
  induction h with
  | done => exact ⟨rfl, rfl⟩
  | @script s _ _ file _ _ _ _ _ kind parsed answered _ ih =>
    obtain ⟨first, each⟩ := List.forall_mem_cons.1 each
    obtain ⟨rfl, _, answer, own⟩ := (first s).eq_resultFiles kind parsed answered
    obtain rfl := Except.ok.inj answer
    obtain ⟨rfl, rfl⟩ := ih each
    rw [List.flatMap_cons, own]
    exact ⟨rfl, rfl⟩
  | @unreadable s _ _ _ kind unread =>
    obtain ⟨first, _⟩ := List.forall_mem_cons.1 each
    obtain ⟨found, parsed⟩ := (first s).exists_found kind
    exact nomatch unread.symm.trans parsed
  | @refused s _ _ _ _ _ kind parsed refused =>
    obtain ⟨first, _⟩ := List.forall_mem_cons.1 each
    obtain ⟨_, _, answer, _⟩ := (first s).eq_resultFiles kind parsed refused
    exact nomatch answer
  | @sourceMap s _ _ _ _ _ kind _ ih =>
    obtain ⟨first, each⟩ := List.forall_mem_cons.1 each
    obtain ⟨rfl, rfl⟩ := ih each
    rw [List.flatMap_cons, (first s).eq_nil kind]
    exact ⟨rfl, rfl⟩
  | @other s _ _ _ _ _ kind _ ih =>
    obtain ⟨first, each⟩ := List.forall_mem_cons.1 each
    obtain ⟨rfl, rfl⟩ := ih each
    rw [List.flatMap_cons, (first s).eq_singleton kind]
    exact ⟨rfl, rfl⟩

/-! ## Parts -/

/-- A script that keeps its map in a part of a batch keeps it as it was. -/
lemma parsedMap_part (distinct : (namesOf batch).Nodup) (kept : part.Subperm batch)
    (script : file.kind = .script)
    (maps : ∀ mapFile ∈ batch, mapFile.name = mapName file.name → mapFile ∈ part) :
    parsedMap file part = parsedMap file batch := by
  have distinctPart : (namesOf part).Nodup := by
    obtain ⟨l, perm, sublist⟩ := kept
    exact (perm.map _).nodup_iff.1 (distinct.sublist (sublist.map _))
  have located : file.locateMap part = file.locateMap batch := by
    rw [locateMap_eq script, locateMap_eq script]
    by_cases has : ∃ mapFile ∈ batch, mapFile.name = mapName file.name
    · obtain ⟨mapFile, mem, name⟩ := has
      rw [← name, find?_name distinct mem, find?_name distinctPart (maps mapFile mem name)]
    · have none {files : List OutputFile} (sub : files ⊆ batch) :
          files.find? (·.name == mapName file.name) = none := by
        apply List.find?_eq_none.2
        intro other mem same
        exact has ⟨other, sub mem, by simpa using same⟩
      rw [none kept.subset, none (List.Subset.refl batch)]
  unfold parsedMap
  rw [located]

/-- With a stateless engine, files of a batch with distinct names make a batch of their own, in
which every file becomes what it becomes in the whole batch, if each script that has a map has it in
both. -/
theorem run_part {p : Pipeline (StateM σ)} (stateless : p.engine.Stateless)
    {batch part out : List OutputFile} (distinct : (batch.map (·.name)).Nodup) {s s' : σ}
    (h : (p.run batch).run.run s = (.ok out, s')) (kept : part.Subperm batch)
    (maps : ∀ file ∈ part, file.kind = .script → ∀ mapFile ∈ batch,
      mapFile.name = mapName file.name → mapFile ∈ part) :
    ∃ block : OutputFile → List OutputFile,
      (∀ file ∈ batch, ∀ t, Block p batch file t (block file) t) ∧ out = batch.flatMap block ∧
      ∀ t, (p.run part).run.run t = (.ok (part.flatMap block), t) := by
  obtain ⟨_, _, _, handled, run⟩ := @handles_run _ p batch s
  obtain ⟨rfl, rfl⟩ := Prod.mk.inj (run.symm.trans h)
  obtain ⟨_, made, rfl⟩ := handled.exists_blocks
  obtain ⟨block, each, rfl⟩ := made.exists_forall stateless distinct
  refine ⟨block, each, List.flatMap_def.symm, fun t => ?_⟩
  obtain ⟨calls, result, t', handledPart, runPart⟩ := @handles_run _ p part t
  have same : ∀ file ∈ part, file.kind = .script → parsedMap file part = parsedMap file batch :=
    fun file mem script => parsedMap_part distinct kept script (maps file mem script)
  -- So the files of the part are handled as files of the whole batch, where their blocks are known.
  have inBatch := handledPart.of_parsedMap same
  obtain ⟨rfl, rfl⟩ := inBatch.of_blocks fun file mem => each file (kept.subset mem)
  exact runPart

/-- The engine of scripts is stateless. -/
lemma stateless_scriptEngine (plugins : List Plugin) :
    (scriptEngine plugins : Engine (StateM σ)).Stateless :=
  ⟨transformScript plugins, fun _ _ _ => rfl⟩

/-- Of two scripts, a map, a map of no script and another file, all but the map of no script make a
batch of their own in another order. -/
theorem run_part_reordered :
    let p : Pipeline (StateM Nat) := .new (scriptEngine Plugin.builtin) {}
    let script : OutputFile := ⟨"a.js", "f();\ndebugger;\n", false⟩
    let map : OutputFile := ⟨"a.js.map", Document.toJson { sources := ["a.ts"] }, true⟩
    let alone : OutputFile := ⟨"b.js", "console.log(g);\nh();\n", false⟩
    let notes : OutputFile := ⟨"notes.txt", "unchanged", false⟩
    let orphan : OutputFile := ⟨"orphan.js.map", "unread", false⟩
    let batch : List OutputFile := [script, orphan, map, alone, notes]
    let part : List OutputFile := [notes, map, alone, script]
    ∃ out s' block, (p.run batch).run.run 0 = (.ok out, s') ∧ out = batch.flatMap block ∧
      (p.run part).run.run 0 = (.ok (part.flatMap block), 0) := by
  intro p script map alone notes orphan batch part
  have stateless : p.engine.Stateless := stateless_scriptEngine Plugin.builtin
  have distinct : (batch.map (·.name)).Nodup := by decide
  have succeeds : ((p.run batch).run.run 0).1.toBool = true := by decide +kernel
  obtain ⟨out, s', run⟩ := Except.exists_eq_ok_mk succeeds
  have kept : part.Subperm batch := by decide
  have maps : ∀ file ∈ part, file.kind = .script → ∀ mapFile ∈ batch,
      mapFile.name = mapName file.name → mapFile ∈ part := by decide
  obtain ⟨block, _, whole, partly⟩ := run_part stateless distinct run kept maps
  exact ⟨out, s', block, run, whole, partly 0⟩

end ScriptMaps
