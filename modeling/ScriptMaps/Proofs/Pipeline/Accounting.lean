import ScriptMaps.Proofs.Pipeline.Chaining

/-!
# Accounting for results

What a run puts out is made of one block for each file of its batch, in the order of the batch
(`run_accounts`). A block is described by what the engine answered for the file and by the first
file of the batch with the name of its map (`Block`), whether or not the engine makes maps as it is
asked and whether or not names are repeated. What holds of all results follows from what holds of
one block.
-/

namespace ScriptMaps

open ScriptMaps.SourceMap (Document)
open ScriptMaps.FileName (mapName resultNames outputNames)

variable {σ : Type}

/-- The first file of a batch with a name. -/
def IsFirstNamed (batch : List OutputFile) (name : String) (file : OutputFile) : Prop :=
  ∃ before after, batch = before ++ file :: after ∧ file.name = name ∧
    ∀ other ∈ before, other.name ≠ name

/-- What an engine makes of a script of a batch, from one state to another. -/
def Pipeline.Answers (p : Pipeline (StateM σ)) (batch : List OutputFile) (file : OutputFile) (s : σ)
    (output : TransformOutput) (s' : σ) : Prop :=
  ∃ found, parsedMap file batch = .ok found ∧
    (p.engine file.text (p.optionsFor file found)).run s = (.ok output, s')

/-- The files that stand for a file of a batch among the results. -/
inductive Block (p : Pipeline (StateM σ)) (batch : List OutputFile) (file : OutputFile) :
    σ → List OutputFile → σ → Prop where
  | other {s : σ} : file.kind = .other → Block p batch file s [file] s
  | sourceMap {s : σ} : file.kind = .sourceMap → Block p batch file s [] s
  | plain {s s' : σ} {output : TransformOutput} :
    file.kind = .script → p.Answers batch file s output s' → output.map = none →
    Block p batch file s [⟨file.name, output.code, file.writeByteOrderMark⟩] s'
  | unpaired {s s' : σ} {output : TransformOutput} {d : Document} :
    file.kind = .script → p.Answers batch file s output s' → output.map = some d →
    (∀ other ∈ batch, other.name ≠ mapName file.name) →
    Block p batch file s
      [⟨file.name, output.code ++ mapReference file.name, file.writeByteOrderMark⟩] s'
  | paired {s s' : σ} {output : TransformOutput} {d : Document} {mapFile : OutputFile} :
    file.kind = .script → p.Answers batch file s output s' → output.map = some d →
    IsFirstNamed batch (mapName file.name) mapFile →
    Block p batch file s
      [⟨file.name, output.code ++ mapReference file.name, file.writeByteOrderMark⟩,
        ⟨mapFile.name, d.toJson, mapFile.writeByteOrderMark⟩] s'

/-- The blocks of several files of a batch, one after the other. -/
inductive Blocks (p : Pipeline (StateM σ)) (batch : List OutputFile) :
    σ → List OutputFile → List (List OutputFile) → σ → Prop where
  | none {s : σ} : Blocks p batch s [] [] s
  | one {s s₁ s₂ : σ} {file : OutputFile} {files block : List OutputFile}
    {blocks : List (List OutputFile)} :
    Block p batch file s block s₁ → Blocks p batch s₁ files blocks s₂ →
    Blocks p batch s (file :: files) (block :: blocks) s₂

variable {p : Pipeline (StateM σ)} {batch files block out : List OutputFile} {file : OutputFile}
variable {blocks : List (List OutputFile)} {s s' : σ}

/-! ## Blocks of a run -/

/-- A file that is found by its name is the first with that name. -/
lemma isFirstNamed_of_find? {name : String} {mapFile : OutputFile}
    (h : batch.find? (·.name == name) = some mapFile) : IsFirstNamed batch name mapFile := by
  obtain ⟨named, before, after, rfl, earlier⟩ := List.find?_eq_some_iff_append.1 h
  have different : ∀ other ∈ before, other.name ≠ name := by simpa using earlier
  exact ⟨before, after, rfl, by simpa using named, different⟩

/-- The first file with a name is found by it. -/
lemma IsFirstNamed.find?_eq {name : String} {mapFile : OutputFile}
    (h : IsFirstNamed batch name mapFile) : batch.find? (·.name == name) = some mapFile := by
  obtain ⟨before, after, rfl, named, earlier⟩ := h
  apply List.find?_eq_some_iff_append.2
  exact ⟨by simpa using named, before, after, rfl, by simpa using earlier⟩

/-- The first file with a name is a file of the batch. -/
lemma IsFirstNamed.mem {name : String} {mapFile : OutputFile}
    (h : IsFirstNamed batch name mapFile) : mapFile ∈ batch := by
  obtain ⟨before, after, rfl, _⟩ := h
  exact List.mem_append_right _ List.mem_cons_self

/-- A file with the name of a map is a map. -/
lemma IsFirstNamed.isMap {name : String} {mapFile : OutputFile}
    (h : IsFirstNamed batch (mapName name) mapFile) : mapFile.kind = .sourceMap := by
  obtain ⟨_, _, _, named, _⟩ := h
  exact (congrArg FileName.kind named).trans (FileName.kind_mapName _)

/-- The map that is found for a script is the first file with the name of it. -/
lemma isFirstNamed_of_found {found : Option (OutputFile × Document)} {mapFile : OutputFile}
    (script : file.kind = .script) (parsed : parsedMap file batch = .ok found)
    (mem : mapFile ∈ found.map (·.1)) : IsFirstNamed batch (mapName file.name) mapFile := by
  rw [(parsedMap_eq_ok parsed).1, locateMap_eq script] at mem
  exact isFirstNamed_of_find? mem

/-- What a script becomes is a block for it. -/
lemma block_resultFiles {found : Option (OutputFile × Document)} {output : TransformOutput}
    (script : file.kind = .script) (parsed : parsedMap file batch = .ok found)
    (answered : (p.engine file.text (p.optionsFor file found)).run s = (.ok output, s')) :
    Block p batch file s (resultFiles file (found.map (·.1)) output) s' := by
  have answers : p.Answers batch file s output s' := ⟨found, parsed, answered⟩
  cases made : output.map with
  | none =>
    have block := Block.plain script answers made
    simpa [resultFiles, scriptText, OutputFile.withText, made] using block
  | some d =>
    cases found with
    | none =>
      have missing : ∀ other ∈ batch, other.name ≠ mapName file.name := by
        intro other mem name
        have isSome := (isSome_found script parsed).2 (List.mem_map.2 ⟨other, mem, name⟩)
        cases isSome
      have block := Block.unpaired script answers made missing
      simpa [resultFiles, scriptText, OutputFile.withText, made] using block
    | some x =>
      have block := Block.paired script answers made (isFirstNamed_of_found script parsed rfl)
      simpa [resultFiles, scriptText, OutputFile.withText, made] using block

/-- What is put out for handled files is made of their blocks. -/
lemma Handles.exists_blocks {calls : List EngineCall}
    (h : Handles p batch s files calls (.ok out) s') :
    ∃ blocks, Blocks p batch s files blocks s' ∧ out = blocks.flatten := by
  induction h using Handles.ok_induction with
  | done => exact ⟨[], .none, rfl⟩
  | script kind parsed answered _ ih =>
    obtain ⟨blocks, others, rfl⟩ := ih
    exact ⟨_ :: blocks, .one (block_resultFiles kind parsed answered) others, rfl⟩
  | sourceMap kind _ ih =>
    obtain ⟨blocks, others, rfl⟩ := ih
    exact ⟨[] :: blocks, .one (.sourceMap kind) others, rfl⟩
  | @other _ _ first _ _ _ kind _ ih =>
    obtain ⟨blocks, others, rfl⟩ := ih
    exact ⟨[first] :: blocks, .one (.other kind) others, rfl⟩

/-! ## What holds of one block -/

/-- A result stands for a file of the batch: it has the name and the byte order mark of that, and is
that file unless it is a script. -/
structure StandsFor (file result : OutputFile) : Prop where
  name : result.name = file.name
  mark : result.writeByteOrderMark = file.writeByteOrderMark
  same : file.kind = .other → result = file

/-- A map among the results belongs to the script before it. -/
def Belongs (script result : OutputFile) : Prop :=
  result.kind = .sourceMap → script.kind = .script ∧ result.name = mapName script.name

/-- Whether a file is no map. -/
def OutputFile.isNoMap (file : OutputFile) : Bool := file.kind != .sourceMap

/-- The files of a list that are no maps, if the first one is none. -/
lemma filter_isNoMap_cons (noMap : file.kind ≠ .sourceMap) :
    (file :: files).filter (·.isNoMap) = file :: files.filter (·.isNoMap) :=
  List.filter_cons_of_pos (by simp [OutputFile.isNoMap, noMap])

/-- The files of a list that are no maps, if the first one is a map. -/
lemma filter_isNoMap_cons_map (map : file.kind = .sourceMap) :
    (file :: files).filter (·.isNoMap) = files.filter (·.isNoMap) :=
  List.filter_cons_of_neg (by simp [OutputFile.isNoMap, map])

/-- A script and whatever maps come after it stand for the script. -/
lemma standsFor_script (script : file.kind = .script) (text : String)
    (maps : files.filter (·.isNoMap) = []) :
    List.Forall₂ StandsFor ([file].filter (·.isNoMap))
      ((⟨file.name, text, file.writeByteOrderMark⟩ :: files).filter (·.isNoMap)) := by
  have noMap : file.kind ≠ .sourceMap := fun map => nomatch script.symm.trans map
  have kept : OutputFile.kind ⟨file.name, text, file.writeByteOrderMark⟩ ≠ .sourceMap := noMap
  rw [filter_isNoMap_cons noMap, filter_isNoMap_cons kept, maps]
  exact .cons ⟨rfl, rfl, fun other => nomatch script.symm.trans other⟩ .nil

namespace Block

/-- The names in a block are among those that the file may become. -/
lemma names (h : Block p batch file s block s') :
    (namesOf block).Sublist (resultNames (namesOf batch) file.name) := by
  have kind : FileName.kind file.name = file.kind := rfl
  cases h with
  | other other => simp [namesOf, resultNames, kind, other]
  | sourceMap map => simp [namesOf]
  | plain script | unpaired script => simp [namesOf, resultNames, kind, script]
  | paired script _ _ first =>
    obtain ⟨before, after, rfl, name, _⟩ := first
    simp [namesOf, resultNames, kind, script, name]

/-- A block does not begin with a map. -/
lemma head (h : Block p batch file s block s') : ∀ f ∈ block.head?, f.kind ≠ .sourceMap := by
  cases h with
  | sourceMap => nofun
  | other kind | plain kind | unpaired kind | paired kind =>
    rintro _ ⟨⟩ map
    exact nomatch kind.symm.trans map

/-- A map in a block belongs to the script before it. -/
lemma belongs (h : Block p batch file s block s') : block.IsChain Belongs := by
  cases h with
  | other | plain | unpaired => exact .singleton _
  | sourceMap => exact .nil
  | paired script _ _ first =>
    obtain ⟨before, after, rfl, name, _⟩ := first
    exact .cons_cons (fun _ => ⟨script, name⟩) (.singleton _)

/-- A block holds one file that is no map for a file that is none. -/
lemma standsFor (h : Block p batch file s block s') :
    List.Forall₂ StandsFor ([file].filter (·.isNoMap)) (block.filter (·.isNoMap)) := by
  cases h with
  | other other =>
    have noMap : file.kind ≠ .sourceMap := fun map => nomatch other.symm.trans map
    rw [filter_isNoMap_cons noMap]
    exact .cons ⟨rfl, rfl, fun _ => rfl⟩ .nil
  | sourceMap map =>
    rw [filter_isNoMap_cons_map map]
    exact .nil
  | plain script | unpaired script => exact standsFor_script script _ rfl
  | paired script _ _ first =>
    apply standsFor_script script
    exact filter_isNoMap_cons_map first.isMap

/-- What is in a block stands for a file of the batch: the script, or the map that was found. -/
lemma exists_standsFor (h : Block p batch file s block s') (mem : file ∈ batch) :
    ∀ f ∈ block, ∃ source ∈ batch, StandsFor source f := by
  have script (kind : file.kind = .script) (text : String) :
      StandsFor file ⟨file.name, text, file.writeByteOrderMark⟩ :=
    ⟨rfl, rfl, fun other => nomatch kind.symm.trans other⟩
  intro f isIn
  cases h with
  | sourceMap => exact absurd isIn List.not_mem_nil
  | other =>
    obtain rfl := List.mem_singleton.1 isIn
    exact ⟨f, mem, rfl, rfl, fun _ => rfl⟩
  | plain kind | unpaired kind =>
    obtain rfl := List.mem_singleton.1 isIn
    exact ⟨file, mem, script kind _⟩
  | @paired _ _ _ mapFile kind _ _ first =>
    obtain rfl | isIn := List.mem_cons.1 isIn
    · exact ⟨file, mem, script kind _⟩
    · obtain rfl := List.mem_singleton.1 isIn
      exact ⟨mapFile, first.mem, rfl, rfl, fun other => nomatch first.isMap.symm.trans other⟩

end Block

/-! ## What holds of all results -/

namespace Blocks

/-- The names in blocks are among those that the files may become. -/
lemma names (h : Blocks p batch s files blocks s') :
    (namesOf blocks.flatten).Sublist ((namesOf files).flatMap (resultNames (namesOf batch))) := by
  induction h with
  | none => exact List.Sublist.slnil
  | one first _ ih =>
    rw [List.flatten_cons, namesOf, List.map_append]
    exact first.names.append ih

/-- The results do not begin with a map. -/
lemma head (h : Blocks p batch s files blocks s') :
    ∀ f ∈ blocks.flatten.head?, f.kind ≠ .sourceMap := by
  induction h with
  | none => nofun
  | @one _ _ _ _ _ block _ first _ ih =>
    cases block with
    | nil => exact ih
    | cons => exact first.head

/-- Every map among the results belongs to the script before it. -/
lemma belongs (h : Blocks p batch s files blocks s') : blocks.flatten.IsChain Belongs := by
  induction h with
  | none => exact .nil
  | one first others ih =>
    rw [List.flatten_cons, List.isChain_append]
    exact ⟨first.belongs, ih, fun _ _ f mem map => absurd map (others.head f mem)⟩

/-- The results that are no maps stand for the files that are none, one by one. -/
lemma standsFor (h : Blocks p batch s files blocks s') :
    List.Forall₂ StandsFor (files.filter (·.isNoMap)) (blocks.flatten.filter (·.isNoMap)) := by
  induction h with
  | none => exact .nil
  | @one _ _ _ file files block blocks first _ ih =>
    rw [List.flatten_cons, List.filter_append, ← List.singleton_append, List.filter_append]
    exact List.rel_append first.standsFor ih

/-- Every result stands for a file of the batch. -/
lemma exists_standsFor (h : Blocks p batch s files blocks s') (sub : files ⊆ batch) :
    ∀ f ∈ blocks.flatten, ∃ source ∈ batch, StandsFor source f := by
  induction h with
  | none => nofun
  | one first _ ih =>
    obtain ⟨mem, sub⟩ := List.cons_subset.1 sub
    intro f isIn
    rw [List.flatten_cons] at isIn
    obtain isIn | isIn := List.mem_append.1 isIn
    · exact first.exists_standsFor mem f isIn
    · exact ih sub f isIn

end Blocks

/-- The results of a run are made of one block for each file of the batch, in order. So the results
that are no maps stand for the files that are none, one by one and in order; every map stands
directly behind the script that it belongs to; and the results have names of the batch, each once if
the names of the batch are distinct. -/
theorem run_accounts {p : Pipeline (StateM σ)} {batch out : List OutputFile} {s s' : σ}
    (h : (p.run batch).run.run s = (.ok out, s')) :
    (∃ blocks, Blocks p batch s batch blocks s' ∧ out = blocks.flatten) ∧
    List.Forall₂ StandsFor (batch.filter (·.isNoMap)) (out.filter (·.isNoMap)) ∧
    (∀ first ∈ out.head?, first.kind ≠ .sourceMap) ∧ out.IsChain Belongs ∧
    (∀ result ∈ out, result.name ∈ batch.map (·.name)) ∧
    ((batch.map (·.name)).Nodup → (out.map (·.name)).Nodup) := by
  obtain ⟨calls, result, s₁, handled, run⟩ := @handles_run _ p batch s
  obtain ⟨rfl, rfl⟩ := Prod.mk.inj (run.symm.trans h)
  obtain ⟨blocks, made, rfl⟩ := handled.exists_blocks
  have names : (namesOf blocks.flatten).Sublist (outputNames (namesOf batch)) := made.names
  refine ⟨⟨blocks, made, rfl⟩, made.standsFor, made.head, made.belongs, fun result mem => ?_,
    fun distinct => (FileName.nodup_outputNames distinct).sublist names⟩
  have known := names.subset (List.mem_map.2 ⟨result, mem, rfl⟩)
  obtain ⟨name, memBatch, of⟩ := List.mem_flatMap.1 known
  obtain ⟨same, _⟩ | ⟨same, _, map⟩ := FileName.mem_resultNames.1 of
  · exact same ▸ memBatch
  · exact same ▸ map

/-- A batch with a script twice and with two files that have the name of its map, of which the first
counts, and with a map that belongs to no script. -/
theorem run_accounts_repeated :
    let p : Pipeline (StateM Nat) := .new countingEngine {}
    let batch : List OutputFile :=
      [⟨"a.js.map", Document.toJson { sources := ["a.ts"] }, true⟩, ⟨"a.js", "f()", false⟩,
        ⟨"notes.txt", "unchanged", false⟩, ⟨"orphan.js.map", "unread", false⟩,
        ⟨"a.js", "g()", true⟩, ⟨"a.js.map", "unread", false⟩]
    let map : String := Document.toJson { sources := ["a.ts"] }
    let out : List OutputFile :=
      [⟨"a.js", "0f()\n//# sourceMappingURL=a.js.map", false⟩, ⟨"a.js.map", map, true⟩,
        ⟨"notes.txt", "unchanged", false⟩,
        ⟨"a.js", "1g()\n//# sourceMappingURL=a.js.map", true⟩, ⟨"a.js.map", map, true⟩]
    (p.run batch).run.run 0 = (.ok out, 2) ∧
    (∃ blocks, Blocks p batch 0 batch blocks 2 ∧ out = blocks.flatten) ∧
    List.Forall₂ StandsFor (batch.filter (·.isNoMap)) (out.filter (·.isNoMap)) := by
  intro p batch map out
  have run : (p.run batch).run.run 0 = (.ok out, 2) := by
    change @Eq (Except PipelineFault (List OutputFile) × Nat) _ _
    decide +kernel
  obtain ⟨blocks, standsFor, _⟩ := run_accounts run
  exact ⟨run, blocks, standsFor⟩

end ScriptMaps
