import ScriptMaps.Proofs.Pipeline.Calling
import ScriptMaps.Proofs.Pipeline.Provenance
import ScriptMaps.Proofs.Print.Marks

/-!
# Scripts without their maps

The code of a script is decided by its text and by the options that do not concern maps. It is what
the printer makes of the text without any record of places (`printedCode`), and every transformation
yields it, whether a map is made or not. So a script that has a map becomes what it becomes without
it, but for the reference to the map at its end (`transformFile_unmapped`).
-/

namespace ScriptMaps

open ScriptMaps.SourceMap (Document)
open ScriptMaps.FileName (mapName)

variable {σ : Type}

/-- The code a text is printed as, with no record of where it came to stand. -/
def printedCode (plugins : List Plugin) (text : String) (options : TransformOptions) :
    Except EngineFault String := do
  let (parsed, comments) ← parseScript (options.filename.getD "unknown.js") text
  let pieces := Print.pieces options.compact (printedComments options comments)
    (Plugin.runAll plugins parsed)
  return (Print.layout (Print.unmarked pieces)).code

section Script

variable {plugins : List Plugin} {text : String} {options : TransformOptions}
variable {output : TransformOutput}

/-- Whatever map is made, the code is the one that is printed without. -/
lemma printedCode_of_ok (h : transformScript plugins text options = .ok output) :
    printedCode plugins text options = .ok output.code := by
  unfold transformScript at h
  obtain ⟨⟨parsed, comments⟩, read, h⟩ := Except.bind_eq_ok.1 h
  have code : output.code = (Print.render options.compact (printedComments options comments)
      (Plugin.runAll plugins parsed)).code := by
    dsimp only at h
    split at h
    case isTrue =>
      obtain ⟨map, _, h⟩ := Except.bind_eq_ok.1 h
      cases h
      rfl
    case isFalse =>
      cases h
      rfl
  unfold printedCode
  rw [read, Except.ok_bind, code]
  exact congrArg Except.ok (Print.code_layout_unmarked _)

/-- A text that cannot be printed is refused, whatever map is asked for. -/
lemma transformScript_of_error {fault : EngineFault}
    (h : printedCode plugins text options = .error fault) :
    transformScript plugins text options = .error fault := by
  unfold printedCode at h
  unfold transformScript
  cases read : parseScript (options.filename.getD "unknown.js") text with
  | ok parsed =>
    rw [read] at h
    cases h
  | error fault' =>
    rw [read] at h
    cases h
    dsimp only
    rw [read]
    rfl

/-- If no map is asked for then all that can be printed is transformed, and without a map. -/
lemma transformScript_of_ok {code : String} (notAsked : options.sourceMaps = false)
    (h : printedCode plugins text options = .ok code) :
    ∃ output, transformScript plugins text options = .ok output ∧ output.code = code ∧
      output.map = none := by
  unfold printedCode at h
  obtain ⟨⟨parsed, comments⟩, read, h⟩ := Except.bind_eq_ok.1 h
  unfold transformScript
  dsimp only
  rw [read, Except.ok_bind, notAsked]
  obtain rfl := Except.ok.inj h
  exact ⟨_, rfl, (Print.code_layout_unmarked _).symm, rfl⟩

end Script

/-! ## Files -/

/-- A batch without the map of a file. -/
def OutputFile.withoutMap (file : OutputFile) (batch : List OutputFile) : List OutputFile :=
  batch.filter (·.name != mapName file.name)

section Files

variable {p : Pipeline (StateM σ)} {plugins : List Plugin} {batch files : List OutputFile}
variable {file : OutputFile} {found : Option (OutputFile × Document)} {output : TransformOutput}
variable {s : σ}

/-- In a batch without its map a script has none. -/
lemma parsedMap_withoutMap (script : file.kind = .script) (batch : List OutputFile) :
    parsedMap file (file.withoutMap batch) = .ok none := by
  apply parsedMap_of_not_mem script
  intro mem
  obtain ⟨other, kept, name⟩ := List.mem_map.1 mem
  have different := (List.mem_filter.1 kept).2
  simp [name] at different

/-- The options that concern maps do not concern the code. -/
lemma printedCode_optionsFor (p : Pipeline (StateM σ)) (plugins : List Plugin) (file : OutputFile)
    (found : Option (OutputFile × Document)) :
    printedCode plugins file.text (p.optionsFor file found) =
      printedCode plugins file.text (p.optionsFor file none) := rfl

/-- What a script of a batch becomes, once its map has been looked up. -/
lemma run_transformFile (engine : p.engine = scriptEngine plugins)
    (parsed : parsedMap file batch = .ok found) (s : σ) :
    (p.transformFile file batch).run.run s =
      (((transformScript plugins file.text (p.optionsFor file found)).mapError
        (PipelineFault.transform file.name)).map (resultFiles file (found.map (·.1))), s) := by
  unfold Pipeline.transformFile
  rw [parsed, engine]
  change ((scriptEngine plugins file.text (p.optionsFor file found)).adapt
    (PipelineFault.transform file.name) >>= _ : ExceptT PipelineFault (StateM σ) _).run.run s = _
  have asked : ((scriptEngine plugins file.text (p.optionsFor file found)).adapt
      (PipelineFault.transform file.name) : ExceptT PipelineFault (StateM σ) _).run.run s =
      ((transformScript plugins file.text (p.optionsFor file found)).mapError
        (PipelineFault.transform file.name), s) := rfl
  cases made : transformScript plugins file.text (p.optionsFor file found) with
  | ok output =>
    rw [made] at asked
    exact run_bind_ok asked
  | error cause =>
    rw [made] at asked
    exact run_bind_error asked

/-- A script whose map cannot be read is refused before the engine is asked. -/
lemma run_transformFile_unreadable {fault : PipelineFault}
    (unread : parsedMap file batch = .error fault) :
    (p.transformFile file batch).run.run s = (.error fault, s) := by
  unfold Pipeline.transformFile
  rw [unread]
  rfl

/-- A script comes first among the files it becomes, with a reference if there is a map of it. -/
lemma exists_resultFiles (script : file.kind = .script) (parsed : parsedMap file batch = .ok found)
    (asked : output.map.isSome = found.isSome) :
    ∃ others, resultFiles file (found.map (·.1)) output =
      file.withText (if mapName file.name ∈ batch.map (·.name)
        then output.code ++ mapReference file.name else output.code) :: others := by
  have has := isSome_found script parsed
  have text : scriptText file.name output = if mapName file.name ∈ batch.map (·.name)
      then output.code ++ mapReference file.name else output.code := by
    rw [scriptText, asked]
    by_cases mem : mapName file.name ∈ batch.map (·.name)
    · rw [if_pos mem, if_pos (has.2 mem)]
    · rw [if_neg mem, if_neg fun some => mem (has.1 some)]
  rw [← text]
  unfold resultFiles
  split
  case h_1 => exact ⟨_, rfl⟩
  case h_2 => exact ⟨_, rfl⟩

/-- A script that is transformed has code that can be printed, and comes first among its results. -/
lemma printed_of_transformFile (engine : p.engine = scriptEngine plugins)
    (script : file.kind = .script) {s' : σ}
    (h : (p.transformFile file batch).run.run s = (.ok files, s')) :
    ∃ code others, printedCode plugins file.text (p.optionsFor file none) = .ok code ∧
      files = file.withText (if mapName file.name ∈ batch.map (·.name)
        then code ++ mapReference file.name else code) :: others := by
  cases parsed : parsedMap file batch with
  | error fault => exact nomatch (run_transformFile_unreadable parsed).symm.trans h
  | ok found =>
    rw [run_transformFile engine parsed] at h
    cases made : transformScript plugins file.text (p.optionsFor file found) with
    | error cause =>
      rw [made] at h
      cases h
    | ok output =>
      rw [made] at h
      cases h
      -- A map is asked for exactly if there is one, and what is printed does not depend on it.
      have asked : output.map.isSome = found.isSome := by
        rw [(transformScript_eq_ok made).1]
        exact Option.isSome_map
      obtain ⟨others, block⟩ := exists_resultFiles script parsed asked
      have printed := printedCode_of_ok made
      rw [printedCode_optionsFor] at printed
      exact ⟨output.code, others, printed, block⟩

/-- A script whose code cannot be printed is refused, if its map can be read. -/
lemma transformFile_refused (engine : p.engine = scriptEngine plugins)
    (parsed : parsedMap file batch = .ok found) {cause : EngineFault}
    (unprinted : printedCode plugins file.text (p.optionsFor file none) = .error cause) (s : σ) :
    (p.transformFile file batch).run.run s = (.error (.transform file.name cause), s) := by
  have refused := transformScript_of_error
    ((printedCode_optionsFor p plugins file found).trans unprinted)
  rw [run_transformFile engine parsed, refused]
  rfl

/-- A script whose code can be printed is transformed without its map. -/
lemma transformFile_withoutMap (engine : p.engine = scriptEngine plugins)
    (script : file.kind = .script) (batch : List OutputFile) {code : String}
    (printed : printedCode plugins file.text (p.optionsFor file none) = .ok code) (s : σ) :
    (p.transformFile file (file.withoutMap batch)).run.run s = (.ok [file.withText code], s) := by
  obtain ⟨output, made, rfl, noMap⟩ := transformScript_of_ok rfl printed
  have alone : resultFiles file none output = [file.withText output.code] := by
    simp [resultFiles, scriptText, noMap]
  rw [run_transformFile engine (parsedMap_withoutMap script batch), made, ← alone]
  rfl

end Files

/-- A script that is transformed in a batch is transformed without its map as well, to the same text
but for the reference to the map. If its text cannot be parsed without a map, then neither can it
with one that can be read. -/
theorem transformFile_unmapped {p : Pipeline (StateM σ)} {plugins : List Plugin}
    (engine : p.engine = scriptEngine plugins) {file : OutputFile} (script : file.kind = .script)
    (batch : List OutputFile) (s : σ) :
    (∀ files s', (p.transformFile file batch).run.run s = (.ok files, s') →
      ∃ code others,
        (p.transformFile file (file.withoutMap batch)).run.run s = (.ok [file.withText code], s) ∧
        files = file.withText (if mapName file.name ∈ batch.map (·.name)
          then code ++ mapReference file.name else code) :: others ∧
        printedCode plugins file.text (p.optionsFor file none) = .ok code) ∧
    ∀ filename line column message s',
      (p.transformFile file (file.withoutMap batch)).run.run s =
        (.error (.transform file.name (.parse filename line column message)), s') →
      (∀ mapFile, IsFirstNamed batch (mapName file.name) mapFile →
        ∃ d, Document.parse mapFile.text = .ok d) →
      (p.transformFile file batch).run.run s =
        (.error (.transform file.name (.parse filename line column message)), s') := by
  refine ⟨fun files s' h => ?_, fun filename line column message s' h readable => ?_⟩
  · obtain ⟨code, others, printed, made⟩ := printed_of_transformFile engine script h
    exact ⟨code, others, transformFile_withoutMap engine script batch printed s, made, printed⟩
  · cases printed : printedCode plugins file.text (p.optionsFor file none) with
    | ok code =>
      exact nomatch (transformFile_withoutMap engine script batch printed s).symm.trans h
    | error cause =>
      -- Without a map only the text is to blame, and that is the same with one.
      have plain := transformFile_refused engine (parsedMap_withoutMap script batch) printed s
      cases parsed : parsedMap file batch with
      | error fault =>
        obtain ⟨mapFile, cause, first, unread, _⟩ := exists_of_parsedMap_error script parsed
        obtain ⟨d, read⟩ := readable mapFile first
        exact nomatch unread.symm.trans read
      | ok found => exact (transformFile_refused engine parsed printed s).trans (plain.symm.trans h)

/-- A script with a map, and one that cannot be parsed with or without its map. -/
theorem transformFile_unmapped_builtin :
    let p : Pipeline (StateM Nat) := .new (scriptEngine Plugin.builtin) {}
    let file : OutputFile := ⟨"a.js", "f();\ndebugger;\n", false⟩
    let broken : OutputFile := ⟨"b.js", "let 1;", false⟩
    let map : String := Document.toJson { sources := ["a.ts"] }
    let batch : List OutputFile :=
      [file, ⟨"a.js.map", map, true⟩, broken, ⟨"b.js.map", map, true⟩]
    let fault : EngineFault := .parse "b.js" 1 5 "Expected ';', '\x7d' or <eof>"
    p.engine = scriptEngine Plugin.builtin ∧ file.kind = .script ∧ broken.kind = .script ∧
    (∃ code others s', (p.transformFile file batch).run.run 0 =
        (.ok (file.withText (code ++ mapReference file.name) :: others), s') ∧
      (p.transformFile file (file.withoutMap batch)).run.run 0 = (.ok [file.withText code], 0)) ∧
    (p.transformFile broken (broken.withoutMap batch)).run.run 0 =
      (.error (.transform "b.js" fault), 0) ∧
    (p.transformFile broken batch).run.run 0 = (.error (.transform "b.js" fault), 0) := by
  intro p file broken map batch fault
  have engine : p.engine = scriptEngine Plugin.builtin := rfl
  have script : file.kind = .script := by decide
  have brokenScript : broken.kind = .script := by decide
  have succeeds : ((p.transformFile file batch).run.run 0).1.toBool = true := by decide +kernel
  obtain ⟨files, s', run⟩ := Except.exists_eq_ok_mk succeeds
  obtain ⟨code, others, alone, rfl, _⟩ :=
    (transformFile_unmapped engine script batch 0).1 files s' run
  have fails : (p.transformFile broken (broken.withoutMap batch)).run.run 0 =
      (.error (.transform "b.js" fault), 0) := by
    change @Eq (Except PipelineFault (List OutputFile) × Nat) _ _
    decide +kernel
  have readable : ∀ mapFile, IsFirstNamed batch (mapName broken.name) mapFile →
      ∃ d, Document.parse mapFile.text = .ok d := by
    intro mapFile first
    have located : batch.find? (·.name == mapName broken.name) =
        some ⟨"b.js.map", map, true⟩ := by decide +kernel
    obtain rfl := Option.some.inj (located.symm.trans first.find?_eq)
    exact Except.exists_eq_ok (by decide +kernel)
  have also := (transformFile_unmapped engine brokenScript batch 0).2 _ _ _ _ 0 fails readable
  exact ⟨engine, script, brokenScript, ⟨code, others, s', run, alone⟩, fails, also⟩

end ScriptMaps
