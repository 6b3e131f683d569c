import ScriptMaps.Proofs.Pipeline.Calling

/-!
# References to maps

A script refers to a map by a comment that the pipeline puts behind the code of the engine. If the
engine makes maps only when it is asked for them, then the scripts among the results that refer to a
map are those with their map right behind them, and the name they refer to is the name of that map,
seen from the directory of the script (`run_references`).

The results are gone through together with the scripts of the batch and with the calls of the engine
(`Paired`): the first script is the result of the first call, and so on.
-/

namespace ScriptMaps

open ScriptMaps.SourceMap (Document)
open ScriptMaps.FileName (mapName basename directory)

variable {σ : Type}

/-- An engine that makes a map only if it is asked for one. -/
def Engine.MapsOnDemand (engine : Engine (StateM σ)) : Prop :=
  ∀ code options s output s', (engine code options).run.run s = (.ok output, s') →
    output.map.isSome → options.sourceMaps = true

/-- A script refers to a name behind its code. -/
def OutputFile.RefersTo (script : OutputFile) (code name : String) : Prop :=
  script.text = code ++ ("\n//# sourceMappingURL=" ++ name)

/-- A result is the map that an engine made for a script, in place of the map that the batch had. -/
def Regenerated (batch : List OutputFile) (script : OutputFile) (output : TransformOutput)
    (result : OutputFile) : Prop :=
  ∃ mapFile d, IsFirstNamed batch (mapName script.name) mapFile ∧ output.map = some d ∧
    result = mapFile.withText d.toJson

/-- A script and what comes after it among the results: the script refers to a map if and only if
its map comes next, and then it refers to the name of that; if it does not refer to a map then it is
the code of the engine, and no map comes next. -/
structure Refers (batch : List OutputFile) (script : OutputFile) (output : TransformOutput)
    (after : List OutputFile) : Prop where
  refers_iff : (∃ name, script.RefersTo output.code name) ↔
    ∃ map ∈ after.head?, Regenerated batch script output map
  resolves : ∀ name, script.RefersTo output.code name →
    ∀ map ∈ after.head?, directory script.name ++ name = map.name
  plain : (∀ name, ¬ script.RefersTo output.code name) →
    script.text = output.code ∧ ∀ next ∈ after.head?, next.kind ≠ .sourceMap

/-- A call was made for a script, and was answered. -/
structure EngineCall.IsFor (call : EngineCall) (source : OutputFile) (output : TransformOutput) :
    Prop where
  code : call.code = source.text
  filename : call.options.filename = some source.name
  answer : call.answer = .ok output

/-- Results beside the scripts and the calls that they come of. -/
inductive Paired (batch : List OutputFile) :
    List OutputFile → List EngineCall → List OutputFile → Prop where
  | none : Paired batch [] [] []
  | other {sources out : List OutputFile} {calls : List EngineCall} {file : OutputFile} :
    file.kind = .other → Paired batch sources calls out → Paired batch sources calls (file :: out)
  | plain {sources out : List OutputFile} {calls : List EngineCall} {call : EngineCall}
    {source : OutputFile} {output : TransformOutput} :
    source.kind = .script → call.IsFor source output → Paired batch sources calls out →
    Paired batch (source :: sources) (call :: calls) (source.withText output.code :: out)
  | referred {sources out : List OutputFile} {calls : List EngineCall} {call : EngineCall}
    {source map : OutputFile} {output : TransformOutput} :
    source.kind = .script → call.IsFor source output → Regenerated batch source output map →
    Paired batch sources calls out →
    Paired batch (source :: sources) (call :: calls)
      (source.withText (output.code ++ mapReference source.name) :: map :: out)

variable {p : Pipeline (StateM σ)} {batch files sources out before after : List OutputFile}
variable {script source map : OutputFile} {output : TransformOutput} {calls : List EngineCall}
variable {s s' : σ}

/-! ## One script -/

/-- The map that was made for a script has the name of its map. -/
lemma Regenerated.name (h : Regenerated batch script output map) :
    map.name = mapName script.name := by
  obtain ⟨mapFile, d, ⟨_, _, _, name, _⟩, _, rfl⟩ := h
  exact name

/-- The map that was made for a script is a map by its name. -/
lemma Regenerated.kind (h : Regenerated batch script output map) : map.kind = .sourceMap := by
  rw [OutputFile.kind, h.name]
  exact FileName.kind_mapName script.name

/-- Code alone is not code with a reference. -/
lemma not_refersTo_of_text (h : script.text = output.code) (name : String) :
    ¬ script.RefersTo output.code name := by
  intro refers
  have length := congrArg String.length (h.symm.trans refers)
  rw [String.length_append, String.length_append] at length
  have positive : 0 < "\n//# sourceMappingURL=".length := by decide
  omega

/-- A script refers to no more than one name. -/
lemma OutputFile.RefersTo.unique {code name name' : String} (h : script.RefersTo code name)
    (h' : script.RefersTo code name') : name = name' := by
  have same := congrArg String.toList (h.symm.trans h')
  simp only [String.toList_append, List.append_cancel_left_eq] at same
  exact String.toList_injective same

/-- A script that is just its code refers to no map. -/
lemma refers_of_plain (text : script.text = output.code)
    (next : ∀ next ∈ after.head?, next.kind ≠ .sourceMap) : Refers batch script output after where
  refers_iff := by
    constructor
    · rintro ⟨name, refers⟩
      exact absurd refers (not_refersTo_of_text text name)
    · rintro ⟨map, mem, made⟩
      exact absurd made.kind (next map mem)
  resolves name refers := absurd refers (not_refersTo_of_text text name)
  plain _ := ⟨text, next⟩

/-- A script with a reference behind its code refers to the map that comes next. -/
lemma refers_of_reference (text : script.text = output.code ++ mapReference script.name)
    (made : Regenerated batch script output map) :
    Refers batch script output (map :: after) where
  refers_iff := ⟨fun _ => ⟨map, rfl, made⟩, fun _ => ⟨_, text⟩⟩
  resolves := by
    rintro name refers _ ⟨⟩
    obtain rfl := refers.unique text
    rw [made.name]
    exact FileName.directory_append_mapName script.name
  plain none := absurd text (none _)

/-! ## All results -/

/-- What a script becomes, if a map is made only if there was one. -/
lemma resultFiles_cases {found : Option (OutputFile × Document)} (script : source.kind = .script)
    (parsed : parsedMap source batch = .ok found) (asked : output.map.isSome → found.isSome) :
    resultFiles source (found.map (·.1)) output = [source.withText output.code] ∨
      ∃ map, Regenerated batch source output map ∧
        resultFiles source (found.map (·.1)) output =
          [source.withText (output.code ++ mapReference source.name), map] := by
  cases made : output.map with
  | none => exact .inl (by simp [resultFiles, scriptText, made])
  | some d =>
    obtain ⟨x, rfl⟩ := Option.isSome_iff_exists.1 (asked (by rw [made]; rfl))
    have first := isFirstNamed_of_found script parsed rfl
    exact .inr ⟨_, ⟨x.1, d, first, made, rfl⟩, by simp [resultFiles, scriptText, made]⟩

/-- Files that are handled are paired with what they become. -/
lemma Handles.paired (onDemand : p.engine.MapsOnDemand)
    (h : Handles p batch s files calls (.ok out) s') :
    Paired batch (scriptsOf files) calls out := by
  induction h using Handles.ok_induction with
  | done => exact .none
  | @script _ _ _ file _ found output _ _ kind parsed answered _ ih =>
    have made : EngineCall.IsFor ⟨file.text, p.optionsFor file found, .ok output⟩ file output :=
      ⟨rfl, rfl, rfl⟩
    -- The engine makes a map only if it is asked, and it is asked only if there is a map.
    have asked : output.map.isSome → found.isSome := by
      intro some
      have wanted := onDemand _ _ _ _ _ answered some
      rwa [Pipeline.optionsFor, fileOptions, Option.isSome_map] at wanted
    rw [scriptsOf_cons kind]
    obtain block | ⟨map, again, block⟩ := resultFiles_cases kind parsed asked
    · rw [block]
      exact .plain kind made ih
    · rw [block]
      exact .referred kind made again ih
  | sourceMap kind _ ih =>
    rw [scriptsOf_cons_of_ne (by simp [kind])]
    exact ih
  | other kind _ ih =>
    rw [scriptsOf_cons_of_ne (by simp [kind])]
    exact .other kind ih

namespace Paired

/-- Results do not begin with a map. -/
lemma head (h : Paired batch sources calls out) : ∀ f ∈ out.head?, f.kind ≠ .sourceMap := by
  cases h with
  | none => nofun
  | other kind | plain kind | referred kind =>
    rintro _ ⟨⟩ map
    exact nomatch kind.symm.trans map

/-- Of results, a script comes of the script of the batch and of the call that have its number. -/
lemma refers (h : Paired batch sources calls (before ++ script :: after))
    (kind : script.kind = .script) :
    ∃ source call output, sources[(scriptsOf before).length]? = some source ∧
      calls[(scriptsOf before).length]? = some call ∧ call.IsFor source output ∧
      script.name = source.name ∧ Refers batch script output after := by
  -- Each script that is put out takes one source and one call, so it has their number.
  generalize e : before ++ script :: after = out at h
  induction h generalizing before with
  | none => simp at e
  | other other _ ih =>
    cases before with
    | nil =>
      obtain ⟨rfl, _⟩ := List.cons.inj e
      exact nomatch kind.symm.trans other
    | cons first before =>
      obtain ⟨rfl, rest⟩ := List.cons.inj e
      rw [scriptsOf_cons_of_ne (by simp [other])]
      exact ih rest
  | @plain _ _ _ call source output isScript made others ih =>
    have kept : (source.withText output.code).kind = .script := isScript
    cases before with
    | nil =>
      obtain ⟨rfl, rfl⟩ := List.cons.inj e
      exact ⟨source, call, output, rfl, rfl, made, rfl, refers_of_plain rfl others.head⟩
    | cons first before =>
      obtain ⟨rfl, rest⟩ := List.cons.inj e
      rw [scriptsOf_cons kept]
      exact ih rest
  | @referred _ _ _ call source map output isScript made again _ ih =>
    have kept : (source.withText (output.code ++ mapReference source.name)).kind = .script :=
      isScript
    match before with
    | [] =>
      obtain ⟨rfl, rfl⟩ := List.cons.inj e
      exact ⟨source, call, output, rfl, rfl, made, rfl, refers_of_reference rfl again⟩
    | [_] =>
      -- What comes next is a map, so it is not the script.
      obtain ⟨rfl, _⟩ := List.cons.inj (List.cons.inj e).2
      exact nomatch kind.symm.trans again.kind
    | first :: second :: before =>
      obtain ⟨rfl, next⟩ := List.cons.inj e
      obtain ⟨rfl, rest⟩ := List.cons.inj next
      rw [scriptsOf_cons kept, scriptsOf_cons_of_ne (by simp [again.kind])]
      exact ih rest

end Paired

/-- If an engine makes maps only when it is asked for them, then of the results of a run the scripts
that refer to a map are those with their map right behind them, they refer to the name of that map,
and every other script is the code of the engine. Every map comes right behind its script. -/
theorem run_references {p : Pipeline (StateM σ)} (onDemand : p.engine.MapsOnDemand)
    {batch out : List OutputFile} {s s' : σ} (h : (p.run batch).run.run s = (.ok out, s')) :
    ∃ calls, performed (p.recorded.run batch) [] s = ((.ok out, calls), s') ∧
      (∀ before script after, out = before ++ script :: after → script.kind = .script →
        ∃ source call output, (scriptsOf batch)[(scriptsOf before).length]? = some source ∧
          calls[(scriptsOf before).length]? = some call ∧ call.IsFor source output ∧
          script.name = source.name ∧ Refers batch script output after) ∧
      ∀ before map after, out = before ++ map :: after → map.kind = .sourceMap →
        ∃ earlier script, before = earlier ++ [script] ∧ script.kind = .script ∧
          map.name = mapName script.name := by
  obtain ⟨calls, result, s₁, handled, run⟩ := @handles_recorded _ p batch s
  obtain ⟨rfl, rfl⟩ := Prod.mk.inj ((run_eq_of_performed run).symm.trans h)
  have paired := handled.paired onDemand
  obtain ⟨blocks, made, flat⟩ := handled.exists_blocks
  refine ⟨calls, run, ?_, ?_⟩
  · rintro before script after rfl kind
    exact paired.refers kind
  · rintro before map after rfl kind
    obtain rfl | ⟨earlier, script, rfl⟩ := List.eq_nil_or_concat' before
    · exact absurd kind (paired.head map rfl)
    · have chain := made.belongs
      rw [← flat, List.append_assoc, List.isChain_append] at chain
      obtain ⟨belongs, _⟩ := List.isChain_cons_cons.1 chain.2.1
      exact ⟨earlier, script, rfl, belongs kind⟩

/-- A script in a directory with its map, a script whose map is missing, and a file of another kind.
-/
theorem run_references_directories :
    let p : Pipeline (StateM Nat) := .new countingEngine { sourceMaps := true }
    let batch : List OutputFile :=
      [⟨"out\\lib/a.js", "f()", false⟩, ⟨"b.js", "g()", false⟩, ⟨"notes.txt", "unchanged", false⟩,
        ⟨"out\\lib/a.js.map", Document.toJson { sources := ["a.ts"] }, true⟩]
    let script : OutputFile :=
      ⟨"out\\lib/a.js", "0f()\n//# sourceMappingURL=a.js.map", false⟩
    let after : List OutputFile :=
      [⟨"out\\lib/a.js.map", Document.toJson { sources := ["a.ts"] }, true⟩,
        ⟨"b.js", "1g()", false⟩, ⟨"notes.txt", "unchanged", false⟩]
    p.engine.MapsOnDemand ∧ (p.run batch).run.run 0 = (.ok (script :: after), 2) ∧
      ∃ output name, Refers batch script output after ∧ script.RefersTo output.code name ∧
        directory script.name ++ name = "out\\lib/a.js.map" := by
  intro p batch script after
  have onDemand : p.engine.MapsOnDemand := by
    intro code options s output s' answered some
    exact (faithful_countingEngine.asked _ _ _ _ _ answered).symm.trans some
  have run : (p.run batch).run.run 0 = (.ok (script :: after), 2) := by
    change @Eq (Except PipelineFault (List OutputFile) × Nat) _ _
    decide +kernel
  obtain ⟨calls, _, each, _⟩ := run_references onDemand run
  obtain ⟨source, call, output, _, _, _, _, refers⟩ := each [] script after rfl (by decide)
  have next : OutputFile.kind ⟨"out\\lib/a.js.map", Document.toJson { sources := ["a.ts"] }, true⟩ =
      .sourceMap := by decide
  obtain ⟨name, refersTo⟩ : ∃ name, script.RefersTo output.code name := by
    by_contra none
    exact (refers.plain fun name refersTo => none ⟨name, refersTo⟩).2 _ rfl next
  exact ⟨onDemand, run, output, name, refers, refersTo, refers.resolves name refersTo _ rfl⟩

end ScriptMaps
