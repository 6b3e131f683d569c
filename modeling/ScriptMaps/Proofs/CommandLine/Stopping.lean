import ScriptMaps.Proofs.CommandLine.Running

/-!
# Sessions that stop

Results are written last, once all else has succeeded. So a run that stops before has at most dumped
files (`Stops.differs`): none unless all that it needs has been read, and none of the results unless
the whole batch has been transformed. What comes of that for every run of the program is
`execute_run_all_or_nothing`.
-/

namespace ScriptMaps.CommandLine

open Disk (DiffersBelow)

variable {fs : FileSystem (StateM Disk)} {d d' : Disk} {l : Location}
variable {inputs : List String} {config debugDir : Option String} {r : Report}

/-- Neither of two directories lies below the other. -/
def Disk.Apart (d : Disk) (dir dir' : String) : Prop :=
  ¬ d.place dir <+: d.place dir' ∧ ¬ d.place dir' <+: d.place dir

/-- What lies below a directory does not lie below one that is apart from it. -/
lemma Disk.Apart.not_below {dir dir' : String} (h : d.Apart dir dir') (below : d.place dir <+: l) :
    ¬ d.place dir' <+: l := by
  intro below'
  obtain within | within := List.prefix_or_prefix_of_prefix below below'
  · exact h.1 within
  · exact h.2 within

/-- The dumps of the two stages are apart. -/
lemma apart_stages (d : Disk) (dir : String) :
    d.Apart (Path.join dir HookStage.output.name) (Path.join dir HookStage.input.name) := by
  constructor <;> rw [place_stage, place_stage, List.prefix_append_right_inj] <;> decide

namespace Stops

/-- A run that stops has dumped nothing unless all that it needs has been read. -/
lemma loaded_or_eq (h : Stops fs d inputs config debugDir r d') :
    (∃ configured batch, Loaded fs d inputs config configured batch) ∨ d' = d := by
  cases h with
  | config | directory | plugins | inputs => exact .inr rfl
  | inputDump loaded | map loaded | engine loaded | outputDump loaded =>
    exact .inl ⟨_, _, loaded⟩

/-- A run that stops has dumped files of the batch only, unless this has been transformed. -/
lemma transformed_or_differs (careful : fs.Careful) (h : Stops fs d inputs config debugDir r d') :
    (∃ configured batch results, Loaded fs d inputs config configured batch ∧
      Transforms configured batch (.ok results)) ∨
    DiffersBelow (debugDir.map (Path.join · HookStage.input.name)) d d' := by
  cases h with
  | config | directory | plugins | inputs => exact .inr (.refl _ d)
  | inputDump _ input | map _ input | engine _ input => exact .inr (differs_of_dumps careful input)
  | outputDump loaded _ transforms => exact .inl ⟨_, _, _, loaded, transforms⟩

/-- A run that stops has changed nothing but dumps. -/
lemma differs (careful : fs.Careful) (h : Stops fs d inputs config debugDir r d') :
    DiffersBelow debugDir d d' := by
  cases h with
  | config | directory | plugins | inputs => exact .refl _ d
  | inputDump _ input | map _ input | engine _ input => exact differs_of_stage careful input
  | outputDump _ input _ output =>
    exact (differs_of_stage careful input).trans (differs_of_stage careful output)

end Stops

/-- A run is all or nothing towards the directory of its results. If it stops before it writes them,
it fails, and no file below that directory is changed, as long as this is apart from the directory
of dumps; and it only fails otherwise if the results themselves cannot be written. The disk is only
changed once all that is needed has been read, and dumps of results are only written if the whole
batch has been transformed. There are no links, so directories are apart if they are by their paths,
where a step upwards goes by names. -/
theorem execute_run_all_or_nothing {fs : FileSystem (StateM Disk)} (careful : fs.Careful)
    {args inputs : List String} {verbosity : Nat} {outDir config debugDir : Option String}
    {d d' : Disk} {outcome : Outcome}
    (asked : Request.ofArguments args = .command verbosity (.run inputs outDir config debugDir))
    (ran : (execute fs args).run d = (outcome, d')) :
    (∀ r d₁, Stops fs d inputs config debugDir r d₁ → outcome.exitCode = 1 ∧ d' = d₁ ∧
      ∀ out ∈ outDir, (∀ dir ∈ debugDir, d.Apart out dir) →
        ∀ l, d.place out <+: l → d'.file? l = d.file? l) ∧
    (outcome.exitCode ≠ 0 → (∃ r, Stops fs d inputs config debugDir r d') ∨
      ∃ out ∈ outDir, ∃ configured batch results d₁ r,
        Reaches fs d inputs config debugDir configured batch results d₁ ∧
        (results.forM (writeFile fs out)).run.run d₁ = (.error r, d')) ∧
    (d' ≠ d → ∃ configured batch, Loaded fs d inputs config configured batch) ∧
    ∀ dir ∈ debugDir, ∀ l, d.place (Path.join dir HookStage.output.name) <+: l →
      d'.file? l ≠ d.file? l →
      ∃ configured batch results, Loaded fs d inputs config configured batch ∧
        Transforms configured batch (.ok results) := by
  refine ⟨fun r d₁ stops => ?_, fun fails => ?_, fun changed => ?_,
    fun dir given l below changed => ?_⟩
  · obtain ⟨exit, rfl⟩ := execute_of_stops asked ran stops
    refine ⟨exit, rfl, fun out _ apart l below => ?_⟩
    exact (stops.differs careful).file? fun dir given => (apart dir given).not_below below
  · obtain stops | ⟨configured, batch, results, d₁, reaches⟩ := execute_cases careful asked ran
    · exact .inl stops
    · have ends := execute_of_reaches asked ran reaches
      cases outDir with
      | none => exact absurd ends.1 fails
      | some out =>
        obtain ⟨result, written, exit⟩ := ends
        cases result with
        | ok => exact absurd exit fails
        | error r => exact .inr ⟨out, rfl, configured, batch, results, d₁, r, reaches, written⟩
  · obtain ⟨r, stops⟩ | ⟨configured, batch, _, _, reaches⟩ := execute_cases careful asked ran
    · exact stops.loaded_or_eq.resolve_right changed
    · exact ⟨configured, batch, reaches.loaded⟩
  · obtain ⟨r, stops⟩ | ⟨configured, batch, results, _, reaches⟩ := execute_cases careful asked ran
    · refine (stops.transformed_or_differs careful).resolve_right fun differs => changed ?_
      -- Only what went in has been dumped, and that is apart from what is dumped of the results.
      refine differs.file? fun dir' given' => ?_
      obtain ⟨dir'', given'', rfl⟩ := Option.mem_map.1 given'
      obtain rfl := Option.mem_unique given given''
      exact (apart_stages d dir).not_below below
    · exact ⟨configured, batch, results, reaches.loaded, reaches.transforms⟩

/-- A run with dumps over a file and a script that is no module, with an older result in place. -/
theorem execute_run_refused :
    let d : Disk := ⟨[(["work"], .directory), (["work", "notes.txt"], .file "new".toUTF8),
      (["work", "a.js"], .file "f(".toUTF8), (["work", "out"], .directory),
      (["work", "out", "notes.txt"], .file "old".toUTF8)], ["work"]⟩
    let inputs := ["notes.txt", "a.js"]
    let args := ["run", "-o", "out", "--debug-dir", "dump"] ++ inputs
    let cause : EngineFault := .parse "a.js" 1 3 "Expression expected"
    Request.ofArguments args = .command 0 (.run inputs (some "out") none (some "dump")) ∧
    d.Apart "out" "dump" ∧
    ∃ outcome d', (execute Disk.fileSystem args).run d = (outcome, d') ∧
      Stops Disk.fileSystem d inputs none (some "dump")
        (PipelineFault.transform "a.js" cause).report d' ∧
      outcome.exitCode = 1 ∧ (∀ l, d.place "out" <+: l → d'.file? l = d.file? l) ∧
      (∃ configured batch, Loaded Disk.fileSystem d inputs none configured batch) ∧
      d'.file? ["work", "dump", "input", "notes.txt"] = some "new".toUTF8 := by
  intro d inputs args cause
  have asked : Request.ofArguments args =
      .command 0 (.run inputs (some "out") none (some "dump")) := by decide +kernel
  have apart : d.Apart "out" "dump" := by
    constructor <;> decide +kernel
  let batch : List OutputFile := [⟨"notes.txt", "new", false⟩, ⟨"a.js", "f(", false⟩]
  have loaded : Loaded Disk.fileSystem d inputs none ⟨[], {}⟩ batch :=
    loaded_of_eq (by decide +kernel)
  have refused : Transforms ⟨[], {}⟩ batch (.error (.transform "a.js" cause)) :=
    transforms_of_eq (d := {}) (by decide +kernel)
  rcases input : (dumps Disk.fileSystem (some "dump") .input batch).run.run d with ⟨began, d₁⟩
  have dumped : ((dumps Disk.fileSystem (some "dump") .input batch).run.run d).1 = .ok () := by
    decide +kernel
  rw [input] at dumped
  obtain rfl := dumped
  have stops := Stops.engine loaded input refused
  rcases ran : (execute Disk.fileSystem args).run d with ⟨outcome, d'⟩
  have dump : ((execute Disk.fileSystem args).run d).2.file?
      ["work", "dump", "input", "notes.txt"] = some "new".toUTF8 := by decide +kernel
  rw [ran] at dump
  obtain ⟨whenStopped, -, whenChanged, -⟩ := execute_run_all_or_nothing careful_fileSystem asked ran
  obtain ⟨exit, rfl, spared⟩ := whenStopped _ _ stops
  have changed : d' ≠ d := by
    rintro rfl
    exact nomatch dump
  refine ⟨asked, apart, outcome, d', rfl, stops, exit, spared "out" rfl ?_, whenChanged changed,
    dump⟩
  rintro _ ⟨⟩
  exact apart

end ScriptMaps.CommandLine
