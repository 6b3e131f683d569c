import ScriptMaps.Proofs.Pipeline.Results

/-!
# Chained passes

The results of a run can be run again. What is put out keeps its names from the first pass on, and
every pass hands its engine what the pass before it made: the text of each script and, if there is a
map for it, that map as the engine returned it (`passes_chain`).
-/

namespace ScriptMaps

open ScriptMaps.SourceMap (Document)
open ScriptMaps.FileName (mapName resultNames outputNames)

variable {σ : Type}

/-- An engine that makes a map exactly if it is asked for one, and only maps that can be written,
with integers for their numbers. -/
structure Engine.Faithful (engine : Engine (StateM σ)) : Prop where
  asked : ∀ code options s output s', (engine code options).run.run s = (.ok output, s') →
    output.map.isSome = options.sourceMaps
  whole : ∀ code options s output s', (engine code options).run.run s = (.ok output, s') →
    ∀ d ∈ output.map, d.Valid Json.Number.IsWhole

/-- The calls that were made for the file with a name. -/
def Pass.callsFor (pass : Pass) (name : String) : List EngineCall :=
  pass.calls.filter (·.options.filename == some name)

/-- A pass goes on where another one stopped: for each script of a batch its engine gets the text
that the other one put out and, if that put out a map, the map that was returned for the script. -/
def Pipeline.Continues (p : Pipeline (StateM σ)) (batch : List OutputFile) (first next : Pass) :
    Prop :=
  ∀ file ∈ batch, file.kind = .script →
    ∃ asked answer told, ∃ emitted ∈ first.output, emitted.name = file.name ∧
      first.callsFor file.name = [asked] ∧ asked.answer = .ok answer ∧
      next.callsFor file.name = [told] ∧ told.code = emitted.text ∧
      (mapName file.name ∈ namesOf first.output →
        ∃ d, answer.map = some d ∧ told.options = fileOptions p.options file (some d)) ∧
      (mapName file.name ∉ namesOf first.output →
        told.options = fileOptions p.options file none)

section Chain

variable {p : Pipeline (StateM σ)} {batch : List OutputFile}
variable {first next : Pass} {passes : List Pass}
variable {s₁ s₂ s₃ s₄ : σ}

/-- A faithful engine answers a call with a map that can be written, with integers for its numbers.
-/
lemma Engine.Faithful.valid (faithful : p.engine.Faithful) {files : List OutputFile}
    {calls : List EngineCall} {result : Except PipelineFault (List OutputFile)}
    (h : Handles p batch s₁ files calls result s₂) {call : EngineCall} (mem : call ∈ calls)
    {output : TransformOutput} (answer : call.answer = .ok output) :
    ∀ d ∈ output.map, d.Valid Json.Number.IsWhole := by
  obtain ⟨_, _, _, _, _, _, _, _, _, answered⟩ := h.of_mem_calls mem
  rw [answer] at answered
  exact faithful.whole _ _ _ _ _ answered

/-- A pipeline with a faithful engine is honest. -/
lemma Engine.Faithful.honest (faithful : p.engine.Faithful) : p.Honest := by
  intro batch files calls result s s' h call mem
  refine ⟨fun output answer => ?_, fun output answer d made => ?_⟩
  · obtain ⟨_, _, _, _, _, _, _, _, _, answered⟩ := h.of_mem_calls mem
    rw [answer] at answered
    exact faithful.asked _ _ _ _ _ answered
  · exact (faithful.valid h mem answer d made).imp fun n whole => whole.isStored.isReadable

/-- A run over the results of another goes on where that stopped. -/
lemma continues_of_handles (faithful : p.engine.Faithful) (distinct : (namesOf batch).Nodup)
    (h : Handles p batch s₁ batch first.calls (.ok first.output) s₂)
    (h' : Handles p first.output s₃ first.output next.calls (.ok next.output) s₄) :
    p.Continues batch first next := by
  have honest := faithful.honest h
  have distinctOut := h.nodup_output honest distinct
  intro file mem script
  obtain ⟨found, output, found', _, one, emitted, made, parsed, map⟩ :=
    h.parsedMap_output distinct honest mem script
  obtain ⟨found'', output', parsed', one', _⟩ := h'.calls_script distinctOut emitted script
  obtain rfl : found'' = found' := by
    rw [parsed] at parsed'
    exact (Except.ok.inj parsed').symm
  -- A map with integers for its numbers is still the same when it has been written and read.
  have again : output.map.map Document.reread = output.map := by
    cases e : output.map with
    | none => rfl
    | some d =>
      have call := List.mem_of_mem_filter (one.symm ▸ List.mem_singleton_self _)
      exact congrArg some (faithful.valid h call rfl d e).reread_eq
  refine ⟨_, output, _, _, emitted, rfl, one, rfl, one', rfl, fun has => ?_, fun missing => ?_⟩
  · obtain ⟨d, some⟩ := Option.isSome_iff_exists.1 (made.1 has)
    refine ⟨d, some, ?_⟩
    rw [Pipeline.optionsFor, map, again, some]
    rfl
  · have none : output.map = none := by simpa using made.not.1 missing
    rw [Pipeline.optionsFor, map, again, none]
    rfl

/-- What a pass goes on with for a script depends on the script only by its name. -/
lemma Pipeline.Continues.of_names {batch' : List OutputFile} (h : p.Continues batch' first next)
    (names : ∀ file ∈ batch, file.kind = .script → file.name ∈ namesOf batch') :
    p.Continues batch first next := by
  intro file mem script
  obtain ⟨file', mem', name⟩ := List.mem_map.1 (names file mem script)
  have script' : file'.kind = .script := by
    rw [OutputFile.kind, name]
    exact script
  have options (d : Option Document) :
      fileOptions p.options file' d = fileOptions p.options file d := by
    rw [fileOptions, fileOptions, name]
  have spec := h file' mem' script'
  simp only [name, options] at spec
  exact spec

/-- Of passes each goes on where the one before it stopped. -/
lemma isChain_passed (faithful : p.engine.Faithful) (distinct : (namesOf batch).Nodup)
    (h : Passed p batch passes) : passes.IsChain (p.Continues batch) := by
  induction h with
  | none => exact .nil
  | @one batch s s' first passes handled others ih =>
    have honest := faithful.honest handled
    have names := handled.namesOf_output honest
    have distinctOut := handled.nodup_output honest distinct
    -- Scripts keep their names, so what is said of them from the first pass on holds of the
    -- scripts of this batch.
    have kept : ∀ file ∈ batch, file.kind = .script → file.name ∈ namesOf first.output := by
      intro file mem script
      have noMap : FileName.kind file.name ≠ .sourceMap := fun map => nomatch script.symm.trans map
      rw [names]
      exact (FileName.mem_outputNames noMap).2 (List.mem_map.2 ⟨file, mem, rfl⟩)
    have chain := (ih distinctOut).imp fun a b continues => continues.of_names kept
    cases others with
    | none => exact .singleton first
    | one handled' _ =>
      exact .cons_cons (continues_of_handles faithful distinct handled handled') chain

end Chain

/-- Passes over a batch of files with distinct names, by an engine that makes maps exactly when it
is asked for them: all put out files of the same names and pass on the files that are neither
scripts nor maps; each pass hands its engine what the one before it made; and a run over what one of
them put out fails only because the engine refuses a script. -/
theorem passes_chain {p : Pipeline (StateM σ)} (faithful : p.engine.Faithful)
    {batch : List OutputFile} (distinct : (batch.map (·.name)).Nodup) {n : Nat} {s s' : σ}
    {passes : List Pass} (h : (p.passes n batch).run.run s = (.ok passes, s')) :
    passes.length = n ∧
    (∀ first ∈ passes, ∀ last ∈ passes,
      first.output.map (·.name) = last.output.map (·.name)) ∧
    (∀ pass ∈ passes,
      pass.output.filter (·.kind == .other) = batch.filter (·.kind == .other)) ∧
    passes.IsChain (p.Continues batch) ∧
    ∀ last ∈ passes, ∀ s₁ s₂ fault, (p.run last.output).run.run s₁ = (.error fault, s₂) →
      ∃ file ∈ last.output, file.kind = .script ∧ ∃ cause, fault = .transform file.name cause := by
  obtain ⟨passed, length⟩ := passed_of_passes h
  refine ⟨length, fun first memFirst last memLast => ?_, fun pass mem => passed.others_output mem,
    isChain_passed faithful distinct passed, fun last mem s₁ s₂ fault failed => ?_⟩
  · exact (passed.namesOf_output faithful.honest memFirst).trans
      (passed.namesOf_output faithful.honest memLast).symm
  · exact passed.of_error_output faithful.honest distinct mem failed

/-- An engine that counts its calls and puts their number before the code. -/
def countingEngine : Engine (StateM Nat) := fun code options => do
  let count ← get
  set (count + 1)
  let map : Document :=
    { sources := options.sourceFileName.toList, file := options.sourceMapTarget }
  return { code := toString count ++ code, map := if options.sourceMaps then some map else none }

/-- The counting engine makes maps as it is asked for them. -/
lemma faithful_countingEngine : countingEngine.Faithful := by
  refine ⟨fun code options s output s' h => ?_, fun code options s output s' h d mem => ?_⟩
  · cases h
    cases options.sourceMaps <;> rfl
  · cases h
    dsimp only at mem
    split at mem
    · cases mem
      exact ⟨show 3 < 2 ^ 32 by decide, List.Pairwise.nil, nofun, nofun⟩
    · cases mem

/-- Two passes over a script with a map and a file of another kind. -/
theorem passes_chain_counting :
    let p : Pipeline (StateM Nat) := .new countingEngine {}
    let batch : List OutputFile :=
      [⟨"a.js", "f()", false⟩, ⟨"a.js.map", Document.toJson { sources := ["a.ts"] }, true⟩,
        ⟨"notes.txt", "unchanged", false⟩]
    p.engine.Faithful ∧ (batch.map (·.name)).Nodup ∧
    ∃ passes s', (p.passes 2 batch).run.run 0 = (.ok passes, s') ∧ passes.length = 2 ∧
      (∀ pass ∈ passes,
        pass.output.filter (·.kind == .other) = batch.filter (·.kind == .other)) ∧
      passes.IsChain (p.Continues batch) := by
  intro p batch
  have faithful : p.engine.Faithful := faithful_countingEngine
  have distinct : (batch.map (·.name)).Nodup := by decide
  have succeeds : ((p.passes 2 batch).run.run 0).1.toBool = true := by decide +kernel
  obtain ⟨passes, s', run⟩ := Except.exists_eq_ok_mk succeeds
  obtain ⟨length, _, others, chain, _⟩ := passes_chain faithful distinct run
  exact ⟨faithful, distinct, passes, s', run, length, others, chain⟩

end ScriptMaps
