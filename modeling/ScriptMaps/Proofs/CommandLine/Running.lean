import ScriptMaps.Proofs.CommandLine.Sessions
import ScriptMaps.Proofs.CommandLine.Writing
import ScriptMaps.Proofs.Pipeline.Calling
import ScriptMaps.Proofs.Pipeline.Isolating

/-!
# Sessions that transform files

Such a session only looks at the disk until all that is needed has been read (`Loaded`). Then, if
asked to, it dumps the inputs, transforms the batch without looking at the disk, dumps the results,
and last of all it writes the results. Either it stops before that, in one of the ways of `Stops`,
or it gets there (`Reaches`), and what it does is known in both cases (`performed_of_stops`,
`performed_of_reaches`).
-/

namespace ScriptMaps.CommandLine

open Disk (DiffersBelow)

variable {α : Type} {d d' d₁ : Disk} {fs : FileSystem (StateM Disk)}

/-! ## What only looks at the disk -/

section Reading

variable (careful : fs.Careful)

include careful

/-- Reading a text leaves the disk as it is. -/
lemma leaves_readText (path : String) : Leaves (fs.readText path) := by
  refine (careful.read path).bind fun contents => ?_
  split
  · exact .pure _
  · exact .throw _

/-- Reading a file leaves the disk as it is. -/
lemma leaves_readFile (path : String) : Leaves (readFile fs path) :=
  ((leaves_readText careful path).adapt _).bind fun _ => .pure _

/-- Reading the settings leaves the disk as it is. -/
lemma leaves_readConfig (config : Option String) : Leaves (readConfig fs config) := by
  cases config with
  | none => exact .pure _
  | some path =>
    refine ((leaves_readText careful path).adapt _).bind fun text => ?_
    split
    · exact .pure _
    · exact .throw _

end Reading

section Plugins

variable {resolver : Resolver (StateM Disk)}

/-- Lookups that leave the disk as it is leave it so one after the other. -/
lemma exists_firstFound (still : ∀ id root d, ∃ found, (resolver id root).run d = (found, d))
    (lookups : List (String × String)) (d : Disk) :
    ∃ found, (firstFound resolver lookups).run d = (found, d) := by
  induction lookups with
  | nil => exact ⟨none, rfl⟩
  | cons lookup lookups ih =>
    obtain ⟨id, root⟩ := lookup
    obtain ⟨found, first⟩ := still id root d
    rw [firstFound, StateT.run_bind, first]
    cases found with
    | some plugin => exact ⟨some plugin, rfl⟩
    | none => exact ih

/-- Resolving an identifier leaves the disk as it is if the lookups do. -/
lemma leaves_resolvePlugin (still : ∀ id root d, ∃ found, (resolver id root).run d = (found, d))
    (id : String) (roots : List String) : Leaves (resolvePlugin resolver id roots) := by
  refine Leaves.bind (fun d => ?_) fun found => ?_
  · obtain ⟨found, run⟩ := exists_firstFound still (lookups id roots) d
    refine ⟨.ok found, ?_⟩
    rw [ExceptT.run_lift, StateT.run_map, run]
    rfl
  · split
    · exact .pure _
    · exact .throw _

/-- The plugins that come with the library or are installed are not looked up on the disk. -/
lemma leaves_ofConfig (settings : PipelineConfig) (installed : InstalledPlugins) (root : String) :
    Leaves
      (ScriptPipeline.ofConfig settings (installed.resolver : Resolver (StateM Disk)) root) := by
  refine ((Leaves.mapM (fun id => ?_) _).adapt _).bind fun _ => .pure _
  unfold PluginLoader.load
  split
  · exact leaves_resolvePlugin (fun id root _ => ⟨installed.find? id root, rfl⟩) _ _
  · exact leaves_resolvePlugin (fun id _ _ => ⟨PluginRegistry.builtin.resolve? id, rfl⟩) _ _

end Plugins

/-! ## Stages of a run -/

/-- The settings of a run can be read, and so can the directory that paths start from. -/
structure Prepared (fs : FileSystem (StateM Disk)) (d : Disk) (config : Option String)
    (settings : PipelineConfig) (root : String) : Prop where
  readable : (readConfig fs config).run.run d = (.ok settings, d)
  known : (fs.workingDirectory.adapt FileFault.report).run.run d = (.ok root, d)

/-- The plugins that settings ask for, looked up from a directory, with the options. No plugins are
installed. -/
def pluginsFrom (settings : PipelineConfig) (root : String) :
    ExceptT PipelineFault (StateM Disk) ScriptPipeline :=
  ScriptPipeline.ofConfig settings (InstalledPlugins.resolver {}) root

/-- The settings can be read and the plugins are found. -/
def Configured (fs : FileSystem (StateM Disk)) (d : Disk) (config : Option String)
    (configured : ScriptPipeline) : Prop :=
  ∃ settings root, Prepared fs d config settings root ∧
    (pluginsFrom settings root).run.run d = (.ok configured, d)

/-- All that is needed can be read: the settings, the plugins, and the inputs as a batch. -/
structure Loaded (fs : FileSystem (StateM Disk)) (d : Disk) (inputs : List String)
    (config : Option String) (configured : ScriptPipeline) (batch : List OutputFile) : Prop where
  configured : Configured fs d config configured
  readable : (inputs.mapM (readFile fs)).run.run d = (.ok batch, d)

/-- Dumps the files of a stage below a directory, if one is given. -/
def dumps (fs : FileSystem (StateM Disk)) (debugDir : Option String) (stage : HookStage)
    (files : List OutputFile) : ExceptT PipelineFault (StateM Disk) Unit :=
  match debugDir with
  | none => pure ()
  | some dir => (dumping fs (Path.join dir stage.name)).run stage files

/-- What becomes of a batch, whatever is on the disk. -/
def Transforms (configured : ScriptPipeline) (batch : List OutputFile)
    (result : Except PipelineFault (List OutputFile)) : Prop :=
  ∀ d : Disk, ((configured.pipeline (m := StateM Disk)).run batch).run.run d = (result, d)

/-- How a run stops before it writes results: with which report, and on which disk. -/
inductive Stops (fs : FileSystem (StateM Disk)) (d : Disk) (inputs : List String)
    (config debugDir : Option String) : Report → Disk → Prop where
  | config {r : Report} : (readConfig fs config).run.run d = (.error r, d) →
    Stops fs d inputs config debugDir r d
  | directory {settings : PipelineConfig} {r : Report} :
    (readConfig fs config).run.run d = (.ok settings, d) →
    (fs.workingDirectory.adapt FileFault.report).run.run d = (.error r, d) →
    Stops fs d inputs config debugDir r d
  | plugins {settings : PipelineConfig} {root : String} {fault : PipelineFault} :
    Prepared fs d config settings root →
    (pluginsFrom settings root).run.run d = (.error fault, d) →
    Stops fs d inputs config debugDir fault.report d
  | inputs {configured : ScriptPipeline} {r : Report} : Configured fs d config configured →
    (inputs.mapM (readFile fs)).run.run d = (.error r, d) →
    Stops fs d inputs config debugDir r d
  | inputDump {configured : ScriptPipeline} {batch : List OutputFile} {fault : PipelineFault}
    {d' : Disk} : Loaded fs d inputs config configured batch →
    (dumps fs debugDir .input batch).run.run d = (.error fault, d') →
    Stops fs d inputs config debugDir fault.report d'
  | map {configured : ScriptPipeline} {batch : List OutputFile} {name : String}
    {cause : Json.Fault} {d' : Disk} : Loaded fs d inputs config configured batch →
    (dumps fs debugDir .input batch).run.run d = (.ok (), d') →
    Transforms configured batch (.error (.mapParse name cause)) →
    Stops fs d inputs config debugDir (PipelineFault.mapParse name cause).report d'
  | engine {configured : ScriptPipeline} {batch : List OutputFile} {name : String}
    {cause : EngineFault} {d' : Disk} : Loaded fs d inputs config configured batch →
    (dumps fs debugDir .input batch).run.run d = (.ok (), d') →
    Transforms configured batch (.error (.transform name cause)) →
    Stops fs d inputs config debugDir (PipelineFault.transform name cause).report d'
  | outputDump {configured : ScriptPipeline} {batch results : List OutputFile}
    {fault : PipelineFault} {d₁ d' : Disk} : Loaded fs d inputs config configured batch →
    (dumps fs debugDir .input batch).run.run d = (.ok (), d₁) →
    Transforms configured batch (.ok results) →
    (dumps fs debugDir .output results).run.run d₁ = (.error fault, d') →
    Stops fs d inputs config debugDir fault.report d'

/-- A run gets to where it writes results: which ones, and on which disk. -/
structure Reaches (fs : FileSystem (StateM Disk)) (d : Disk) (inputs : List String)
    (config debugDir : Option String) (configured : ScriptPipeline)
    (batch results : List OutputFile) (d' : Disk) : Prop where
  loaded : Loaded fs d inputs config configured batch
  transforms : Transforms configured batch (.ok results)
  dumped : ∃ d₁, (dumps fs debugDir .input batch).run.run d = (.ok (), d₁) ∧
    (dumps fs debugDir .output results).run.run d₁ = (.ok (), d')

section Stages

variable {inputs : List String} {config debugDir outDir : Option String}
variable {configured : ScriptPipeline} {batch results : List OutputFile} {r : Report}
variable {notes : Output}

/-- Something becomes of every batch. -/
lemma exists_transforms (configured : ScriptPipeline) (batch : List OutputFile) :
    ∃ result, Transforms configured batch result := by
  have stateless : (configured.pipeline (m := StateM Disk)).engine.Stateless :=
    stateless_scriptEngine configured.plugins
  obtain ⟨_, result, _, _, run⟩ := @handles_run _ configured.pipeline batch ({} : Disk)
  exact ⟨result, run_of_stateless stateless run⟩

/-- What becomes of a batch is seen on any disk. -/
lemma transforms_of_eq {result : Except PipelineFault (List OutputFile)}
    (h : (((configured.pipeline (m := StateM Disk)).run batch).run.run d).1 = result) :
    Transforms configured batch result := by
  obtain ⟨_, transforms⟩ := exists_transforms configured batch
  rw [transforms] at h
  obtain rfl := h
  exact transforms

/-- Without settings of its own a run on a disk needs nothing but its inputs. -/
lemma loaded_of_eq (h : ((inputs.mapM (readFile Disk.fileSystem)).run.run d).1 = .ok batch) :
    Loaded Disk.fileSystem d inputs none ⟨[], {}⟩ batch := by
  have prepared : Prepared Disk.fileSystem d none {} ("/" ++ "/".intercalate d.workingDirectory) :=
    ⟨rfl, rfl⟩
  exact ⟨⟨_, _, prepared, rfl⟩, (Leaves.mapM (leaves_readFile careful_fileSystem) inputs).run_eq h⟩

/-- What a run needs is determined by the disk that it begins with. -/
lemma Loaded.unique {configured' : ScriptPipeline} {batch' : List OutputFile}
    (h : Loaded fs d inputs config configured batch)
    (h' : Loaded fs d inputs config configured' batch') :
    configured = configured' ∧ batch = batch' := by
  obtain ⟨⟨settings, root, ⟨readable, known⟩, resolved⟩, read⟩ := h
  obtain ⟨⟨settings', root', ⟨readable', known'⟩, resolved'⟩, read'⟩ := h'
  cases readable.symm.trans readable'
  cases known.symm.trans known'
  cases resolved.symm.trans resolved'
  cases read.symm.trans read'
  exact ⟨rfl, rfl⟩

/-- Only one thing becomes of a batch. -/
lemma Transforms.unique {result result' : Except PipelineFault (List OutputFile)}
    (h : Transforms configured batch result) (h' : Transforms configured batch result') :
    result = result' :=
  (Prod.mk.inj ((h {}).symm.trans (h' {}))).1

/-- A batch is only refused for a map or by the engine. -/
lemma Transforms.fault {fault : PipelineFault} (h : Transforms configured batch (.error fault)) :
    (∃ name cause, fault = .mapParse name cause) ∨ ∃ name cause, fault = .transform name cause := by
  obtain ⟨_, result, _, handled, run⟩ := @handles_run _ configured.pipeline batch ({} : Disk)
  obtain ⟨rfl, -⟩ := Prod.mk.inj (run.symm.trans (h {}))
  obtain ⟨file, _, script, unread | ⟨cause, rfl⟩⟩ := handled.of_error
  · obtain ⟨mapFile, cause, _, _, rfl⟩ := exists_of_parsedMap_error script unread
    exact .inl ⟨mapFile.name, cause, rfl⟩
  · exact .inr ⟨file.name, cause, rfl⟩

/-- A run stops for something that it needs, or all of that can be read. -/
lemma stops_or_loaded (careful : fs.Careful) (d : Disk) (inputs : List String)
    (config debugDir : Option String) :
    (∃ r d', Stops fs d inputs config debugDir r d') ∨
      ∃ configured batch, Loaded fs d inputs config configured batch := by
  -- One thing after the other is read, and a session stops at the first that cannot be.
  obtain ⟨settings, readable⟩ := leaves_readConfig careful config d
  obtain ⟨root, known⟩ := careful.workingDirectory.adapt FileFault.report d
  cases settings with
  | error r => exact .inl ⟨r, d, .config readable⟩
  | ok settings =>
    cases root with
    | error r => exact .inl ⟨r, d, .directory readable known⟩
    | ok root =>
      have prepared : Prepared fs d config settings root := ⟨readable, known⟩
      obtain ⟨plugins, resolved⟩ := leaves_ofConfig settings {} root d
      cases plugins with
      | error fault => exact .inl ⟨fault.report, d, .plugins prepared resolved⟩
      | ok configured =>
        have isConfigured : Configured fs d config configured :=
          ⟨settings, root, prepared, resolved⟩
        obtain ⟨files, readable⟩ := Leaves.mapM (leaves_readFile careful) inputs d
        cases files with
        | error r => exact .inl ⟨r, d, .inputs isConfigured readable⟩
        | ok batch => exact .inr ⟨configured, batch, isConfigured, readable⟩

/-- A run stops before it writes results, or gets there. -/
lemma stops_or_reaches (careful : fs.Careful) (d : Disk) (inputs : List String)
    (config debugDir : Option String) :
    (∃ r d', Stops fs d inputs config debugDir r d') ∨
      ∃ configured batch results d',
        Reaches fs d inputs config debugDir configured batch results d' := by
  obtain stops | ⟨configured, batch, loaded⟩ := stops_or_loaded careful d inputs config debugDir
  · exact .inl stops
  · rcases input : (dumps fs debugDir .input batch).run.run d with ⟨began, d₁⟩
    obtain ⟨transformed, transforms⟩ := exists_transforms configured batch
    cases began with
    | error fault => exact .inl ⟨_, d₁, .inputDump loaded input⟩
    | ok =>
      cases transformed with
      | error fault =>
        obtain ⟨name, cause, rfl⟩ | ⟨name, cause, rfl⟩ := transforms.fault
        · exact .inl ⟨_, d₁, .map loaded input transforms⟩
        · exact .inl ⟨_, d₁, .engine loaded input transforms⟩
      | ok results =>
        rcases output : (dumps fs debugDir .output results).run.run d₁ with ⟨ended, d'⟩
        cases ended with
        | error fault => exact .inl ⟨_, d', .outputDump loaded input transforms output⟩
        | ok =>
          exact .inr ⟨configured, batch, results, d', loaded, transforms, d₁, input, output⟩

/-! ## What is dumped -/

/-- The dumps of a stage lie below a directory of their own. -/
lemma place_stage (d : Disk) (dir : String) (stage : HookStage) :
    d.place (Path.join dir stage.name) = d.place dir ++ [stage.name] := by
  have isName : ∀ n ∈ [stage.name], Path.IsName n := by cases stage <;> decide
  have place := Disk.place_join isName d dir
  rwa [String.intercalate_singleton] at place

/-- The dumps of a stage spare what lies beside them, and without a directory there are none. -/
lemma differs_of_dumps (careful : fs.Careful) {stage : HookStage} {files : List OutputFile}
    {result : Except PipelineFault Unit}
    (h : (dumps fs debugDir stage files).run.run d = (result, d')) :
    DiffersBelow (debugDir.map (Path.join · stage.name)) d d' := by
  cases debugDir with
  | none => exact (Prod.mk.inj h).2.symm
  | some dir =>
    obtain ⟨_, _, _, runs, -, spared⟩ :=
      exists_runs (dumping fs (Path.join dir stage.name)) stage files d
    obtain ⟨-, rfl⟩ := Prod.mk.inj (runs.run.symm.trans h)
    exact spared _ (spares_dumping careful _)

/-- The dumps of a stage differ below the directory of dumps only. -/
lemma differs_of_stage (careful : fs.Careful) {stage : HookStage} {files : List OutputFile}
    {result : Except PipelineFault Unit}
    (h : (dumps fs debugDir stage files).run.run d = (result, d')) :
    DiffersBelow debugDir d d' := by
  refine (differs_of_dumps careful h).mono fun dir => ?_
  rw [place_stage]
  exact List.prefix_append _ _

/-- A run that gets to its results has changed nothing but dumps. -/
lemma Reaches.differs (careful : fs.Careful)
    (h : Reaches fs d inputs config debugDir configured batch results d') :
    DiffersBelow debugDir d d' := by
  obtain ⟨-, -, d₁, input, output⟩ := h
  exact (differs_of_stage careful input).trans (differs_of_stage careful output)

/-! ## What a session does -/

/-- A batch is transformed between the dumps of its files and those of the results. -/
lemma transformBatch_eq (fs : FileSystem (StateM Disk)) (p : Pipeline (StateM Disk))
    (debugDir : Option String) (batch : List OutputFile) :
    transformBatch fs p debugDir batch = do
      dumps fs debugDir .input batch
      let results ← p.run batch
      dumps fs debugDir .output results
      return results := by
  cases debugDir with
  | none => simp [transformBatch, dumps]
  | some dir => rfl

/-- What is done with results: they are written below a directory, if one is given. -/
def handOut (fs : FileSystem (StateM Disk)) (outDir : Option String) (results : List OutputFile) :
    Session (StateM Disk) Unit :=
  match outDir with
  | some dir => Session.quietly (results.forM (writeFile fs dir))
  | none => results.forM fun f => Session.print (summary f)

/-- What a session does once it is prepared. -/
lemma performed_of_prepared {settings : PipelineConfig} {root : String}
    (h : Prepared fs d config settings root) :
    performed (runFiles fs inputs outDir config debugDir) notes d =
      performed (do
        let configured ← Session.ofPipeline (pluginsFrom settings root)
        let batch ← Session.quietly (inputs.mapM (readFile fs))
        let results ← Session.ofPipeline (transformBatch fs configured.pipeline debugDir batch)
        handOut fs outDir results) notes d := by
  unfold runFiles
  rw [performed_bind_ok (performed_quietly h.readable),
    performed_bind_ok (performed_quietly h.known)]
  rfl

/-- What a session does once the plugins are found. -/
lemma performed_of_configured (h : Configured fs d config configured) :
    performed (runFiles fs inputs outDir config debugDir) notes d =
      performed (do
        let batch ← Session.quietly (inputs.mapM (readFile fs))
        let results ← Session.ofPipeline (transformBatch fs configured.pipeline debugDir batch)
        handOut fs outDir results) notes d := by
  obtain ⟨settings, root, prepared, resolved⟩ := h
  rw [performed_of_prepared prepared, performed_bind_ok (performed_ofPipeline resolved)]

/-- What a session does once all that is needed can be read. -/
lemma performed_of_loaded (h : Loaded fs d inputs config configured batch) :
    performed (runFiles fs inputs outDir config debugDir) notes d =
      performed (do
        let results ← Session.ofPipeline (transformBatch fs configured.pipeline debugDir batch)
        handOut fs outDir results) notes d := by
  rw [performed_of_configured h.configured, performed_bind_ok (performed_quietly h.readable)]

/-- A session stops as the run does. -/
lemma performed_of_stops (h : Stops fs d inputs config debugDir r d') :
    performed (runFiles fs inputs outDir config debugDir) notes d =
      ((.error r, notes), d') := by
  -- If the batch is refused, so is the session.
  have refused {configured : ScriptPipeline} {batch : List OutputFile} {fault : PipelineFault}
      {d' : Disk} (loaded : Loaded fs d inputs config configured batch)
      (run : (transformBatch fs configured.pipeline debugDir batch).run.run d =
        (.error fault, d')) :
      performed (runFiles fs inputs outDir config debugDir) notes d =
        ((.error fault.report, notes), d') := by
    rw [performed_of_loaded loaded]
    exact performed_bind_error (performed_ofPipeline run)
  cases h with
  | config unreadable => exact performed_bind_error (performed_quietly unreadable)
  | directory readable unknown =>
    unfold runFiles
    rw [performed_bind_ok (performed_quietly readable)]
    exact performed_bind_error (performed_quietly unknown)
  | plugins prepared unresolved =>
    rw [performed_of_prepared prepared]
    exact performed_bind_error (performed_ofPipeline unresolved)
  | inputs isConfigured unreadable =>
    rw [performed_of_configured isConfigured]
    exact performed_bind_error (performed_quietly unreadable)
  | inputDump loaded input =>
    refine refused loaded ?_
    rw [transformBatch_eq]
    exact run_bind_error input
  | map loaded input transforms | engine loaded input transforms =>
    refine refused loaded ?_
    rw [transformBatch_eq, run_bind_ok input]
    exact run_bind_error (transforms _)
  | outputDump loaded input transforms output =>
    refine refused loaded ?_
    rw [transformBatch_eq, run_bind_ok input, run_bind_ok (transforms _)]
    exact run_bind_error output

/-- A session gets to the results as the run does. -/
lemma performed_of_reaches (h : Reaches fs d inputs config debugDir configured batch results d') :
    performed (runFiles fs inputs outDir config debugDir) notes d =
      performed (handOut fs outDir results) notes d' := by
  obtain ⟨loaded, transforms, d₁, input, output⟩ := h
  have run : (transformBatch fs configured.pipeline debugDir batch).run.run d =
      (.ok results, d') := by
    rw [transformBatch_eq, run_bind_ok input, run_bind_ok (transforms d₁), run_bind_ok output]
    rfl
  rw [performed_of_loaded loaded, performed_bind_ok (performed_ofPipeline run)]

/-- Results that are not written are only printed. -/
lemma exists_print (results : List OutputFile) (notes : Output) (d : Disk) :
    ∃ notes', performed (handOut fs none results) notes d = ((.ok (), notes'), d) := by
  induction results generalizing notes with
  | nil => exact ⟨notes, rfl⟩
  | cons f results ih =>
    let printed := { notes with stdout := notes.stdout ++ (summary f).splitOn "\n" }
    have first : performed (Session.print (summary f) : Session (StateM Disk) Unit) notes d =
        ((.ok (), printed), d) := rfl
    obtain ⟨notes', others⟩ := ih printed
    exact ⟨notes', (performed_bind_ok first).trans others⟩

/-! ## What comes of a program -/

variable {args : List String} {verbosity : Nat} {outcome : Outcome}

/-- A program that is to transform files does what the session does, and tells by its exit code
whether that succeeds. -/
lemma exists_performed
    (asked : Request.ofArguments args = .command verbosity (.run inputs outDir config debugDir))
    (ran : (execute fs args).run d = (outcome, d')) :
    ∃ result notes, performed (runFiles fs inputs outDir config debugDir) {} d =
        ((result, notes), d') ∧ outcome.exitCode = if result = .ok () then 0 else 1 := by
  have session : execute fs args =
      (runFiles fs inputs outDir config debugDir).outcome := by
    unfold execute
    rw [asked]
  rcases e : performed (runFiles fs inputs outDir config debugDir) {} d with
    ⟨⟨result, notes⟩, d₁⟩
  rw [session, run_outcome e] at ran
  cases result with
  | ok =>
    obtain ⟨rfl, rfl⟩ := Prod.mk.inj ran
    exact ⟨.ok (), notes, rfl, rfl⟩
  | error r =>
    obtain ⟨rfl, rfl⟩ := Prod.mk.inj ran
    exact ⟨.error r, notes, rfl, rfl⟩

/-- A program fails if its run stops. -/
lemma execute_of_stops
    (asked : Request.ofArguments args = .command verbosity (.run inputs outDir config debugDir))
    (ran : (execute fs args).run d = (outcome, d'))
    (h : Stops fs d inputs config debugDir r d₁) : outcome.exitCode = 1 ∧ d' = d₁ := by
  obtain ⟨result, notes, session, exit⟩ := exists_performed asked ran
  obtain ⟨e, rfl⟩ := Prod.mk.inj (session.symm.trans (performed_of_stops h))
  obtain ⟨rfl, -⟩ := Prod.mk.inj e
  exact ⟨exit, rfl⟩

/-- A program ends where its run stops, or its run gets to the results. -/
lemma execute_cases (careful : fs.Careful)
    (asked : Request.ofArguments args = .command verbosity (.run inputs outDir config debugDir))
    (ran : (execute fs args).run d = (outcome, d')) :
    (∃ r, Stops fs d inputs config debugDir r d') ∨
      ∃ configured batch results d₁,
        Reaches fs d inputs config debugDir configured batch results d₁ := by
  obtain ⟨r, d₁, stops⟩ | reaches := stops_or_reaches careful d inputs config debugDir
  · obtain ⟨-, rfl⟩ := execute_of_stops asked ran stops
    exact .inl ⟨r, stops⟩
  · exact .inr reaches

/-- A program whose run gets to the results succeeds, unless these are to be written and cannot. -/
lemma execute_of_reaches
    (asked : Request.ofArguments args = .command verbosity (.run inputs outDir config debugDir))
    (ran : (execute fs args).run d = (outcome, d'))
    (h : Reaches fs d inputs config debugDir configured batch results d₁) :
    match outDir with
    | none => outcome.exitCode = 0 ∧ d' = d₁
    | some dir => ∃ result,
      (results.forM (writeFile fs dir)).run.run d₁ = (result, d') ∧
        outcome.exitCode = if result = .ok () then 0 else 1 := by
  obtain ⟨result, notes, session, exit⟩ := exists_performed asked ran
  rw [performed_of_reaches h] at session
  cases outDir with
  | none =>
    obtain ⟨notes', printed⟩ := exists_print results {} d₁
    obtain ⟨e, rfl⟩ := Prod.mk.inj (session.symm.trans printed)
    obtain ⟨rfl, -⟩ := Prod.mk.inj e
    exact ⟨exit, rfl⟩
  | some dir =>
    rcases written : (results.forM (writeFile fs dir)).run.run d₁ with ⟨result', d₂⟩
    obtain ⟨e, rfl⟩ := Prod.mk.inj (session.symm.trans (performed_quietly written))
    obtain ⟨rfl, -⟩ := Prod.mk.inj e
    exact ⟨result, written, exit⟩

end Stages

end ScriptMaps.CommandLine
