import ScriptMaps.Proofs.CommandLine.Running

/-!
# Results and what overwrites them

The names of results are names of inputs, and each occurs once if the inputs have distinct ones
(`Transforms.names`). But a result is written where the names in its path lead, so inputs of
different names may overwrite each other (`exists_result_overwritten`). A result is kept if no later
one has its destination, and all are kept if the inputs differ in the names in their paths
(`execute_run_keeps_results`).
-/

namespace ScriptMaps.CommandLine

variable {configured : ScriptPipeline} {batch results : List OutputFile}

/-! ## Names of results -/

/-- Results are made of one block for each file of the batch. -/
lemma Transforms.exists_blocks (h : Transforms configured batch (.ok results)) :
    ∃ blocks d', Blocks (configured.pipeline (m := StateM Disk)) batch {} batch blocks d' ∧
      results = blocks.flatten := by
  obtain ⟨_, _, d', handled, run⟩ := @handles_run _ configured.pipeline batch ({} : Disk)
  obtain ⟨rfl, -⟩ := Prod.mk.inj (run.symm.trans (h {}))
  obtain ⟨blocks, made, e⟩ := handled.exists_blocks
  exact ⟨blocks, d', made, e⟩

/-- Each result stands for a file of the batch. -/
lemma Transforms.exists_standsFor (h : Transforms configured batch (.ok results)) :
    ∀ f ∈ results, ∃ source ∈ batch, StandsFor source f := by
  obtain ⟨blocks, d', made, rfl⟩ := h.exists_blocks
  exact made.exists_standsFor (List.Subset.refl batch)

/-- The names of results are names of the batch, each once if those are distinct. -/
lemma Transforms.names (h : Transforms configured batch (.ok results)) :
    (∀ f ∈ results, f.name ∈ batch.map (·.name)) ∧
      ((batch.map (·.name)).Nodup → (results.map (·.name)).Nodup) := by
  refine ⟨fun f mem => ?_, fun distinct => ?_⟩
  · obtain ⟨source, isIn, stands⟩ := h.exists_standsFor f mem
    exact List.mem_map.2 ⟨source, isIn, stands.name.symm⟩
  · obtain ⟨blocks, d', made, rfl⟩ := h.exists_blocks
    exact (FileName.nodup_outputNames distinct).sublist made.names

/-- Results have distinct destinations if the names in the paths of the inputs are distinct. -/
lemma nodup_destinations (h : Transforms configured batch (.ok results))
    (distinct : ((batch.map (·.name)).map downward).Nodup) (dir : String) :
    (results.map fun f => destination dir f.name).Nodup := by
  obtain ⟨known, once⟩ := h.names
  have names : (results.map (·.name)).Nodup := once (List.Nodup.of_map _ distinct)
  have apart : ∀ a ∈ results.map (·.name), ∀ b ∈ results.map (·.name),
      destination dir a = destination dir b → a = b := by
    intro a memA b memB same
    obtain ⟨f, isIn, rfl⟩ := List.mem_map.1 memA
    obtain ⟨g, isIn', rfl⟩ := List.mem_map.1 memB
    exact List.inj_on_of_nodup_map distinct (known f isIn) (known g isIn')
      (destination_eq_iff.1 same)
  have destinations := List.Nodup.map_on apart names
  rwa [List.map_map] at destinations

/-! ## Runs that write -/

/-- A run that succeeds in writing its results keeps each that no later one has the destination of.
-/
lemma exists_kept {fs : FileSystem (StateM Disk)} (careful : fs.Careful)
    {args inputs : List String} {verbosity : Nat} {out : String} {config debugDir : Option String}
    {d d' : Disk} {outcome : Outcome}
    (asked : Request.ofArguments args = .command verbosity (.run inputs (some out) config debugDir))
    (ran : (execute fs args).run d = (outcome, d')) (succeeds : outcome.exitCode = 0) :
    ∃ configured batch results, Loaded fs d inputs config configured batch ∧
      Transforms configured batch (.ok results) ∧
      ∀ before f after, results = before ++ f :: after →
        (∀ g ∈ after, destination out g.name ≠ destination out f.name) →
        d'.read (destination out f.name) = .ok (encoded f) := by
  obtain ⟨r, stops⟩ | ⟨configured, batch, results, d₁, reaches⟩ := execute_cases careful asked ran
  · obtain ⟨exit, -⟩ := execute_of_stops asked ran stops
    exact nomatch succeeds.symm.trans exit
  · obtain ⟨result, written, exit⟩ := execute_of_reaches asked ran reaches
    obtain ⟨result', d₂, written', -, holds⟩ := exists_writeFiles careful out results d₁
    obtain ⟨rfl, rfl⟩ := Prod.mk.inj (written'.symm.trans written)
    have well : result' = .ok () := by
      by_contra failed
      rw [succeeds, if_neg failed] at exit
      cases exit
    refine ⟨configured, batch, results, reaches.loaded, reaches.transforms,
      fun before f after split different => ?_⟩
    refine (holds well before f after split fun g later same => ?_).read
    exact different g later (destination_eq_iff.2 same)

/-- A run that succeeds in writing its results keeps each result that no later one has the
destination of, which is so exactly if they agree in the names in their paths. So it keeps all of
them, in files of their own, if the inputs differ in the names in their paths. There are no links on
the way to the results, so different names lead to different files. -/
theorem execute_run_keeps_results {fs : FileSystem (StateM Disk)} (careful : fs.Careful)
    {args inputs : List String} {verbosity : Nat} {out : String} {config debugDir : Option String}
    {d d' : Disk} {outcome : Outcome}
    (asked : Request.ofArguments args = .command verbosity (.run inputs (some out) config debugDir))
    (ran : (execute fs args).run d = (outcome, d')) (succeeds : outcome.exitCode = 0) :
    ∃ configured batch results, Loaded fs d inputs config configured batch ∧
      Transforms configured batch (.ok results) ∧
      (∀ before f after, results = before ++ f :: after →
        (∀ g ∈ after, destination out g.name ≠ destination out f.name) →
        d'.read (destination out f.name) = .ok (encoded f)) ∧
      (∀ a b, destination out a = destination out b ↔ downward a = downward b) ∧
      ((inputs.map downward).Nodup →
        (results.map fun f => destination out f.name).Nodup ∧
        ∀ f ∈ results, d'.read (destination out f.name) = .ok (encoded f)) := by
  obtain ⟨configured, batch, results, loaded, transforms, kept⟩ :=
    exists_kept careful asked ran succeeds
  refine ⟨configured, batch, results, loaded, transforms, kept, fun _ _ => destination_eq_iff,
    fun distinct => ?_⟩
  -- If destinations are distinct, then no later result has that of a given one.
  rw [← names_of_readFiles loaded.readable] at distinct
  have destinations := nodup_destinations transforms distinct out
  refine ⟨destinations, fun f mem => ?_⟩
  obtain ⟨before, after, rfl⟩ := List.append_of_mem mem
  refine kept before f after rfl fun g later same => ?_
  rw [List.map_append, List.map_cons, List.nodup_append, List.nodup_cons] at destinations
  exact destinations.2.1.1 (List.mem_map.2 ⟨g, later, same⟩)

/-- A run over a script with a map, a file above the working directory and one with a byte order
mark. -/
theorem execute_run_keeps_results_above :
    let map : String := SourceMap.Document.toJson { sources := ["a.ts"] }
    let marked : String := String.ofList [byteOrderMark, 'b']
    let d : Disk := ⟨[(["work"], .directory), (["work", "a.js"], .file "f();".toUTF8),
      (["work", "a.js.map"], .file map.toUTF8), (["notes.txt"], .file "a".toUTF8),
      (["work", "notes.txt"], .file marked.toUTF8)], ["work"]⟩
    let inputs := ["a.js", "a.js.map", "../notes.txt", "/work/notes.txt"]
    let args := ["run", "-o", "out"] ++ inputs
    Request.ofArguments args = .command 0 (.run inputs (some "out") none none) ∧
    (inputs.map downward).Nodup ∧
    ∃ outcome d', (execute Disk.fileSystem args).run d = (outcome, d') ∧ outcome.exitCode = 0 ∧
      ∃ configured batch results, Loaded Disk.fileSystem d inputs none configured batch ∧
        Transforms configured batch (.ok results) ∧
        ∀ f ∈ results, d'.read (destination "out" f.name) = .ok (encoded f) := by
  intro map marked d inputs args
  have asked : Request.ofArguments args = .command 0 (.run inputs (some "out") none none) := by
    decide +kernel
  have distinct : (inputs.map downward).Nodup := by decide +kernel
  rcases ran : (execute Disk.fileSystem args).run d with ⟨outcome, d'⟩
  have succeeds : ((execute Disk.fileSystem args).run d).1.exitCode = 0 := by decide +kernel
  rw [ran] at succeeds
  obtain ⟨configured, batch, results, loaded, transforms, -, -, all⟩ :=
    execute_run_keeps_results careful_fileSystem asked ran succeeds
  exact ⟨asked, distinct, outcome, d', rfl, succeeds, configured, batch, results, loaded,
    transforms, (all distinct).2⟩

/-- Two files of different names, of which the second one overwrites the first: only the names in
their paths are kept, and both have the same of these. -/
theorem exists_result_overwritten :
    let d : Disk := ⟨[(["work"], .directory), (["work", "a.txt"], .file "one".toUTF8),
      (["work", "sub"], .directory), (["work", "sub", "a.txt"], .file "two".toUTF8)], ["work"]⟩
    let inputs := ["sub/a.txt", "sub/../a.txt"]
    let args := ["run", "-o", "out"] ++ inputs
    Request.ofArguments args = .command 0 (.run inputs (some "out") none none) ∧ inputs.Nodup ∧
    ∃ outcome d', (execute Disk.fileSystem args).run d = (outcome, d') ∧ outcome.exitCode = 0 ∧
      ∃ configured batch results, Loaded Disk.fileSystem d inputs none configured batch ∧
        Transforms configured batch (.ok results) ∧
        ∃ f ∈ results, d'.read (destination "out" f.name) ≠ .ok (encoded f) := by
  intro d inputs args
  have asked : Request.ofArguments args = .command 0 (.run inputs (some "out") none none) := by
    decide +kernel
  let first : OutputFile := ⟨"sub/a.txt", "two", false⟩
  let second : OutputFile := ⟨"sub/../a.txt", "one", false⟩
  have loaded : Loaded Disk.fileSystem d inputs none ⟨[], {}⟩ [first, second] :=
    loaded_of_eq (by decide +kernel)
  have transforms : Transforms ⟨[], {}⟩ [first, second] (.ok [first, second]) :=
    transforms_of_eq (d := {}) (by decide +kernel)
  rcases ran : (execute Disk.fileSystem args).run d with ⟨outcome, d'⟩
  have succeeds : ((execute Disk.fileSystem args).run d).1.exitCode = 0 := by decide +kernel
  have lost : ((execute Disk.fileSystem args).run d).2.read (destination "out" first.name) ≠
      .ok (encoded first) := by decide +kernel
  rw [ran] at succeeds lost
  exact ⟨asked, by decide, outcome, d', rfl, succeeds, ⟨[], {}⟩, [first, second], [first, second],
    loaded, transforms, first, List.mem_cons_self, lost⟩

end ScriptMaps.CommandLine
