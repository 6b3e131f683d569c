import ScriptMaps.Pipeline.Debug
import ScriptMaps.Proofs.Pipeline.Results

/-!
# Baselines

The options that a pipeline is set up with are a baseline, from which the options for each file are
derived. Of what its caller gives, only whether comments are printed and whether the code is compact
comes to matter (`run_baseline`): all else is either set when the pipeline is made or set anew for
each file, whether there is a map for it or not (`fileOptions_congr`). So options that were derived
for a file are as good a baseline as the one they were derived from (`fileOptions_fileOptions`).
-/

namespace ScriptMaps

open ScriptMaps.SourceMap (Document)

variable {m : Type → Type}

/-- The options for a file are decided by what they keep of the baseline. -/
lemma fileOptions_congr {b b' : TransformOptions} (comments : b.comments = b'.comments)
    (compact : b.compact = b'.compact) (ast : b.ast = b'.ast)
    (filter : b.commentFilter = b'.commentFilter) (file : OutputFile) (map : Option Document) :
    fileOptions b file map = fileOptions b' file map := by
  unfold fileOptions
  rw [comments, compact, ast, filter]

/-- Options that were derived for a file may be taken for the baseline. -/
lemma fileOptions_fileOptions (b : TransformOptions) (file file' : OutputFile)
    (map map' : Option Document) :
    fileOptions (fileOptions b file map) file' map' = fileOptions b file' map' :=
  fileOptions_congr rfl rfl rfl rfl file' map'

/-- Two pipelines that ask the same engine in the same way do the same. -/
lemma Pipeline.run_congr [Monad m] {p q : Pipeline m} (engine : p.engine = q.engine)
    (options : ∀ file map, fileOptions p.options file map = fileOptions q.options file map) :
    p.run = q.run := by
  have script : p.transformFile = q.transformFile := by
    funext file batch
    unfold Pipeline.transformFile
    simp only [engine, options]
  have each : p.fileResults = q.fileResults := by
    funext batch file
    unfold Pipeline.fileResults
    rw [script]
  funext batch
  unfold Pipeline.run
  rw [each]

section New

variable {o o' : TransformOptions}

/-- The options for a file depend on two fields of the baseline of a new pipeline. -/
lemma fileOptions_new (engine : Engine m) (comments : o.comments = o'.comments)
    (compact : o.compact = o'.compact) (file : OutputFile) (map : Option Document) :
    fileOptions (Pipeline.new engine o).options file map =
      fileOptions (Pipeline.new engine o').options file map :=
  @fileOptions_congr (Pipeline.new engine o).options (Pipeline.new engine o').options comments
    compact rfl rfl file map

variable [Monad m]

/-- A pipeline does the same whatever its baseline says about anything but comments and compact
code.
-/
lemma Pipeline.run_new (engine : Engine m) (comments : o.comments = o'.comments)
    (compact : o.compact = o'.compact) :
    (Pipeline.new engine o).run = (Pipeline.new engine o').run :=
  Pipeline.run_congr rfl (fileOptions_new engine comments compact)

/-- A recorded run does not depend on any other field either. -/
lemma Pipeline.recorded_run_new (engine : Engine m) (comments : o.comments = o'.comments)
    (compact : o.compact = o'.compact) :
    (Pipeline.new engine o).recorded.run = (Pipeline.new engine o').recorded.run :=
  Pipeline.run_congr rfl (fileOptions_new engine comments compact)

/-- A pipeline with hooks does the same as well. -/
lemma Pipeline.runDebug_new (engine : Engine m) (comments : o.comments = o'.comments)
    (compact : o.compact = o'.compact) :
    (Pipeline.new engine o).runDebug = (Pipeline.new engine o').runDebug := by
  funext onInput onOutput batch
  unfold Pipeline.runDebug
  rw [run_new engine comments compact]

end New

/-- What is said of every call that a pipeline with a baseline makes. -/
structure EngineCall.Based (call : EngineCall) (o : TransformOptions) : Prop where
  ast : call.options.ast = false
  filter : call.options.commentFilter = some .mapReferences
  comments : call.options.comments = o.comments
  compact : call.options.compact = o.compact

/-- Every call that is made for files of a batch is made as the baseline says. -/
lemma Handles.based {σ : Type} {engine : Engine (StateM σ)} {o : TransformOptions}
    {batch files : List OutputFile} {calls : List EngineCall}
    {result : Except PipelineFault (List OutputFile)} {s s' : σ}
    (h : Handles (.new engine o) batch s files calls result s') {call : EngineCall}
    (mem : call ∈ calls) : call.Based o := by
  obtain ⟨file, _, found, _, _, _, options, _⟩ := h.of_mem_calls mem
  have derived :
      call.options = fileOptions (Pipeline.new engine o).options file (found.map (·.2)) :=
    options
  exact ⟨by rw [derived]; rfl, by rw [derived]; rfl, by rw [derived]; rfl, by rw [derived]; rfl⟩

/-- Two pipelines with the same engine, whose baselines agree on comments and on compact code, make
the same calls with the same options and come to the same result on every batch, with hooks or
without. None of the calls asks for a module, and each drops the references to maps. And whatever
options have been derived for one file are as good a baseline for the next. -/
theorem run_baseline {o o' : TransformOptions} (comments : o.comments = o'.comments)
    (compact : o.compact = o'.compact) :
    (∀ {σ : Type} (engine : Engine (StateM σ)) (batch : List OutputFile) (s : σ),
      ∃ calls result s',
        performed ((Pipeline.new engine o).recorded.run batch) [] s = ((result, calls), s') ∧
        performed ((Pipeline.new engine o').recorded.run batch) [] s = ((result, calls), s') ∧
        ((Pipeline.new engine o).run batch).run.run s = (result, s') ∧
        ((Pipeline.new engine o').run batch).run.run s = (result, s') ∧
        ∀ call ∈ calls, call.Based o) ∧
    (∀ {m : Type → Type} [Monad m] (engine : Engine m) (onInput onOutput : Hooks m)
      (batch : List OutputFile),
      (Pipeline.new engine o).run batch = (Pipeline.new engine o').run batch ∧
      (Pipeline.new engine o).runDebug onInput onOutput batch =
        (Pipeline.new engine o').runDebug onInput onOutput batch) ∧
    ∀ b f₁ m₁ f₂ m₂, fileOptions (fileOptions b f₁ m₁) f₂ m₂ = fileOptions b f₂ m₂ := by
  refine ⟨fun {σ} engine batch s => ?_, fun engine onInput onOutput batch => ⟨?_, ?_⟩, ?_⟩
  · obtain ⟨calls, result, s', handled, recorded⟩ := handles_recorded (p := .new engine o) s
    have run := run_eq_of_performed recorded
    refine ⟨calls, result, s', recorded, ?_, run, ?_, fun call mem => handled.based mem⟩
    · rw [← Pipeline.recorded_run_new engine comments compact]
      exact recorded
    · rw [← Pipeline.run_new engine comments compact]
      exact run
  · rw [Pipeline.run_new engine comments compact]
  · rw [Pipeline.runDebug_new engine comments compact]
  · exact fun b f₁ m₁ f₂ m₂ => fileOptions_fileOptions b f₁ f₂ m₁ m₂

/-- A baseline that says much about maps, and one that says nothing, for a script with a map and a
script without. -/
theorem run_baseline_stale :
    let stale : TransformOptions :=
      { filename := some "stale.js", sourceMaps := true, sourceRoot := some "/stale",
        sourceFileName := some "stale.ts", inputSourceMap := some {}, ast := true }
    let engine : Engine (StateM Nat) := scriptEngine Plugin.builtin
    let batch : List OutputFile :=
      [⟨"a.js", "f();\ndebugger;\n", false⟩,
        ⟨"a.js.map", Document.toJson { sources := ["a.ts"] }, true⟩, ⟨"b.js", "g();\n", false⟩]
    stale.comments = TransformOptions.comments {} ∧ stale.compact = TransformOptions.compact {} ∧
    ∃ calls out s',
      performed ((Pipeline.new engine stale).recorded.run batch) [] 0 = ((.ok out, calls), s') ∧
      performed ((Pipeline.new engine {}).recorded.run batch) [] 0 = ((.ok out, calls), s') ∧
      ∀ call ∈ calls, call.Based stale := by
  intro stale engine batch
  have comments : stale.comments = TransformOptions.comments {} := rfl
  have compact : stale.compact = TransformOptions.compact {} := rfl
  have succeeds : (((Pipeline.new engine stale).run batch).run.run 0).1.toBool = true := by
    decide +kernel
  obtain ⟨out, s', run⟩ := Except.exists_eq_ok_mk succeeds
  obtain ⟨same, _⟩ := run_baseline comments compact
  obtain ⟨calls, result, s₁, recorded, recorded', run', _, based⟩ := same engine batch 0
  obtain ⟨rfl, rfl⟩ := Prod.mk.inj (run'.symm.trans run)
  exact ⟨comments, compact, calls, out, s₁, recorded, recorded', based⟩

end ScriptMaps
