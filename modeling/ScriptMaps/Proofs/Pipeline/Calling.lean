import ScriptMaps.Proofs.Pipeline.Accounting

/-!
# Calls of a run

A run asks its engine once for each script until one fails: in the order of the batch, with the text
of the script, and with the options that its map in the batch gives (`Answered`). It ends with the
fault of the first script that fails, and no call is made after that (`Fails`). What stands in maps
that are found for no script makes no difference (`run_calls`).
-/

namespace ScriptMaps

open ScriptMaps.SourceMap (Document)
open ScriptMaps.FileName (mapName)

variable {σ : Type}

/-- The scripts among files. -/
def scriptsOf (files : List OutputFile) : List OutputFile := files.filter (·.kind == .script)

/-- What is read of the map of a script, which is the first file of the batch with the name of it.
-/
inductive MapRead (batch : List OutputFile) (file : OutputFile) : Option Document → Prop where
  | none : (∀ other ∈ batch, other.name ≠ mapName file.name) → MapRead batch file none
  | some {mapFile : OutputFile} {d : Document} : IsFirstNamed batch (mapName file.name) mapFile →
    Document.parse mapFile.text = .ok d → MapRead batch file (some d)

/-- The calls for scripts of a batch that are all answered, and the states between them. -/
inductive Answered (p : Pipeline (StateM σ)) (batch : List OutputFile) :
    σ → List OutputFile → List EngineCall → σ → Prop where
  | none {s : σ} : Answered p batch s [] [] s
  | one {s s₁ s₂ : σ} {file : OutputFile} {files : List OutputFile} {map : Option Document}
    {output : TransformOutput} {calls : List EngineCall} : MapRead batch file map →
    (p.engine file.text (fileOptions p.options file map)).run s = (.ok output, s₁) →
    Answered p batch s₁ files calls s₂ →
    Answered p batch s (file :: files)
      (⟨file.text, fileOptions p.options file map, .ok output⟩ :: calls) s₂

/-- How a script fails: its map cannot be read, and no call is made; or the engine refuses it. -/
inductive Fails (p : Pipeline (StateM σ)) (batch : List OutputFile) (file : OutputFile) :
    σ → List EngineCall → PipelineFault → σ → Prop where
  | unreadable {s : σ} {mapFile : OutputFile} {cause : Json.Fault} :
    IsFirstNamed batch (mapName file.name) mapFile → Document.parse mapFile.text = .error cause →
    Fails p batch file s [] (.mapParse mapFile.name cause) s
  | refused {s s₁ : σ} {map : Option Document} {cause : EngineFault} : MapRead batch file map →
    (p.engine file.text (fileOptions p.options file map)).run s = (.error cause, s₁) →
    Fails p batch file s [⟨file.text, fileOptions p.options file map, .error cause⟩]
      (.transform file.name cause) s₁

/-- The calls that are made for files of a batch. Either all scripts are answered, or those before
one that fails. -/
inductive Calls (p : Pipeline (StateM σ)) (batch files : List OutputFile) (s : σ) :
    List EngineCall → Except PipelineFault (List OutputFile) → σ → Prop where
  | finished {calls : List EngineCall} {out : List OutputFile} {s' : σ} :
    Answered p batch s (scriptsOf files) calls s' → Calls p batch files s calls (.ok out) s'
  | stopped {before after : List OutputFile} {file : OutputFile} {made last : List EngineCall}
    {fault : PipelineFault} {s₁ s' : σ} :
    files = before ++ file :: after → file.kind = .script →
    Answered p batch s (scriptsOf before) made s₁ → Fails p batch file s₁ last fault s' →
    Calls p batch files s (made ++ last) (.error fault) s'

/-- A map is unread if it is found for no script: wherever it has the name of the map of one, an
earlier file has that name too. -/
def Unread (before : List OutputFile) (mapFile : OutputFile) (after : List OutputFile) : Prop :=
  mapFile.kind = .sourceMap ∧ ∀ file ∈ before ++ mapFile :: after, file.kind = .script →
    mapFile.name = mapName file.name → ∃ other ∈ before, other.name = mapFile.name

variable {p : Pipeline (StateM σ)} {batch files out : List OutputFile} {file : OutputFile}
variable {found : Option (OutputFile × Document)} {calls : List EngineCall}
variable {result : Except PipelineFault (List OutputFile)} {s s' s₁ : σ}

/-! ## Maps -/

/-- What was parsed for a script is read of its map. -/
lemma mapRead_of_parsedMap (script : file.kind = .script)
    (parsed : parsedMap file batch = .ok found) : MapRead batch file (found.map (·.2)) := by
  cases found with
  | none =>
    apply MapRead.none
    intro other mem name
    exact nomatch (isSome_found script parsed).2 (List.mem_map.2 ⟨other, mem, name⟩)
  | some x =>
    have read := (parsedMap_eq_ok parsed).2 x rfl
    exact .some (isFirstNamed_of_found script parsed rfl) read

/-- What is read of the map of a script is parsed for it. -/
lemma MapRead.exists_parsedMap {map : Option Document} (h : MapRead batch file map)
    (script : file.kind = .script) :
    ∃ found, parsedMap file batch = .ok found ∧ found.map (·.2) = map := by
  unfold parsedMap
  rw [locateMap_eq script]
  cases h with
  | none missing =>
    have nowhere : batch.find? (·.name == mapName file.name) = Option.none :=
      List.find?_eq_none.2 fun other mem => by simpa using missing other mem
    rw [nowhere]
    exact ⟨_, rfl, rfl⟩
  | @some mapFile d first read =>
    rw [first.find?_eq]
    dsimp only
    rw [read]
    exact ⟨_, rfl, rfl⟩

/-- Only the map of a script can keep its options from being known. -/
lemma exists_of_parsedMap_error {fault : PipelineFault} (script : file.kind = .script)
    (h : parsedMap file batch = .error fault) :
    ∃ mapFile cause, IsFirstNamed batch (mapName file.name) mapFile ∧
      Document.parse mapFile.text = .error cause ∧ fault = .mapParse mapFile.name cause := by
  unfold parsedMap at h
  rw [locateMap_eq script] at h
  split at h
  case h_1 => cases h
  case h_2 mapFile located =>
    split at h
    case h_1 => cases h
    case h_2 cause unread =>
      cases h
      exact ⟨mapFile, cause, isFirstNamed_of_find? located, unread, rfl⟩

/-! ## Calls -/

/-- A script in front is the first of the scripts. -/
lemma scriptsOf_cons (script : file.kind = .script) :
    scriptsOf (file :: files) = file :: scriptsOf files :=
  List.filter_cons_of_pos (by simp [script])

/-- A file in front that is no script does not count. -/
lemma scriptsOf_cons_of_ne (other : file.kind ≠ .script) :
    scriptsOf (file :: files) = scriptsOf files :=
  List.filter_cons_of_neg (by simp [other])

/-- A file that is no script adds no calls. -/
lemma Calls.cons (h : Calls p batch files s calls result s') (other : file.kind ≠ .script)
    (f : List OutputFile → List OutputFile) :
    Calls p batch (file :: files) s calls (result.map f) s' := by
  cases h with
  | finished answered =>
    rw [← scriptsOf_cons_of_ne other] at answered
    exact .finished answered
  | @stopped before after last _ _ _ _ _ split script answered fails =>
    rw [← scriptsOf_cons_of_ne other] at answered
    exact .stopped (congrArg (file :: ·) split) script answered fails

/-- The calls that are made for files that are handled. -/
lemma Handles.traced (h : Handles p batch s files calls result s') :
    Calls p batch files s calls result s' := by
  induction h with
  | done => exact .finished .none
  | @script _ _ _ file _ _ _ _ _ kind parsed answered _ ih =>
    have read := mapRead_of_parsedMap kind parsed
    cases ih with
    | finished others =>
      have all := Answered.one read answered others
      rw [← scriptsOf_cons kind] at all
      exact .finished all
    | stopped split script others fails =>
      have all := Answered.one read answered others
      rw [← scriptsOf_cons kind] at all
      exact .stopped (congrArg (file :: ·) split) script all fails
  | unreadable kind unread =>
    obtain ⟨mapFile, cause, first, refused, rfl⟩ := exists_of_parsedMap_error kind unread
    exact .stopped (List.nil_append _).symm kind .none (.unreadable first refused)
  | refused kind parsed refused =>
    have read := mapRead_of_parsedMap kind parsed
    exact .stopped (List.nil_append _).symm kind .none (.refused read refused)
  | sourceMap kind _ ih =>
    have passed := ih.cons (fun script => nomatch kind.symm.trans script) id
    rwa [Except.map_id] at passed
  | other kind _ ih => exact ih.cons (fun script => nomatch kind.symm.trans script) _

/-- Files are handled to the end if all scripts among them are answered. -/
lemma Answered.exists_handles (h : Answered p batch s (scriptsOf files) calls s') :
    ∃ out, Handles p batch s files calls (.ok out) s' := by
  -- The induction is on all files, of which only the scripts have been answered.
  induction files generalizing s calls with
  | nil =>
    cases h
    exact ⟨[], .done⟩
  | cons file files ih =>
    cases kind : file.kind with
    | script =>
      rw [scriptsOf_cons kind] at h
      cases h with
      | one read answered others =>
        obtain ⟨found, parsed, rfl⟩ := read.exists_parsedMap kind
        obtain ⟨out, handled⟩ := ih others
        exact ⟨_, .script kind parsed answered handled⟩
    | sourceMap =>
      rw [scriptsOf_cons_of_ne (by simp [kind])] at h
      obtain ⟨out, handled⟩ := ih h
      exact ⟨out, .sourceMap kind handled⟩
    | other =>
      rw [scriptsOf_cons_of_ne (by simp [kind])] at h
      obtain ⟨out, handled⟩ := ih h
      exact ⟨_, .other kind handled⟩

/-! ## Unread maps -/

/-- Going through a list depends on what is done for its elements only. -/
lemma mapM_congr {m : Type → Type} [Monad m] [LawfulMonad m] {α β : Type} {f g : α → m β}
    {as : List α} (h : ∀ a ∈ as, f a = g a) : as.mapM f = as.mapM g := by
  induction as with
  | nil => rfl
  | cons a as ih =>
    obtain ⟨first, others⟩ := List.forall_mem_cons.1 h
    rw [List.mapM_cons, List.mapM_cons, first, ih others]

section Unread

variable {m : Type → Type} [Monad m] {before after : List OutputFile} {mapFile : OutputFile}

/-- What an unread map holds makes no difference to what is parsed for scripts. -/
lemma Unread.parsedMap_withText (h : Unread before mapFile after) (text : String)
    (mem : file ∈ before ++ mapFile :: after) (script : file.kind = .script) :
    parsedMap file (before ++ mapFile.withText text :: after) =
      parsedMap file (before ++ mapFile :: after) := by
  have located : file.locateMap (before ++ mapFile.withText text :: after) =
      file.locateMap (before ++ mapFile :: after) := by
    rw [locateMap_eq script, locateMap_eq script, List.find?_append, List.find?_append]
    by_cases name : mapFile.name = mapName file.name
    · obtain ⟨other, memBefore, same⟩ := h.2 file mem script name
      have earlier : (before.find? (·.name == mapName file.name)).isSome := by
        rw [List.find?_isSome]
        exact ⟨other, memBefore, by simp [same, name]⟩
      rw [Option.or_of_isSome earlier, Option.or_of_isSome earlier]
    · have different : (mapFile.withText text).name ≠ mapName file.name := name
      rw [List.find?_cons_of_neg (by simpa using different),
        List.find?_cons_of_neg (by simpa using name)]
  unfold parsedMap
  rw [located]

/-- What an unread map holds makes no difference to a run. -/
lemma Unread.run_withText [LawfulMonad m] (h : Unread before mapFile after) (p : Pipeline m)
    (text : String) :
    p.run (before ++ mapFile.withText text :: after) = p.run (before ++ mapFile :: after) := by
  have same : ∀ file ∈ before ++ mapFile :: after,
      p.fileResults (before ++ mapFile.withText text :: after) file =
        p.fileResults (before ++ mapFile :: after) file := by
    intro file mem
    unfold Pipeline.fileResults
    split
    case h_1 script =>
      unfold Pipeline.transformFile
      rw [h.parsedMap_withText text mem script]
    case h_2 => rfl
    case h_3 => rfl
  have dropped (batch : List OutputFile) :
      p.fileResults batch (mapFile.withText text) = p.fileResults batch mapFile := by
    have kind : (mapFile.withText text).kind = .sourceMap := h.1
    rw [Pipeline.fileResults, Pipeline.fileResults, kind, h.1]
  unfold Pipeline.run
  rw [← mapM_congr same, List.mapM_append, List.mapM_append, List.mapM_cons, List.mapM_cons,
    dropped]

end Unread

/-- A run asks its engine for the scripts of the batch in order, once each, up to the first that
fails; recording the calls changes nothing. It succeeds if and only if all scripts can be answered,
one after the other, and whatever stands in an unread map it does the same. -/
theorem run_calls (p : Pipeline (StateM σ)) (batch : List OutputFile) (s : σ) :
    ∃ calls result s', performed (p.recorded.run batch) [] s = ((result, calls), s') ∧
      (p.run batch).run.run s = (result, s') ∧ Calls p batch batch s calls result s' ∧
      ((∃ out, result = .ok out) ↔
        ∃ calls s', Answered p batch s (scriptsOf batch) calls s') ∧
      ∀ before mapFile after text, batch = before ++ mapFile :: after →
        Unread before mapFile after →
        p.recorded.run (before ++ mapFile.withText text :: after) = p.recorded.run batch := by
  obtain ⟨calls, result, s', handled, run⟩ := @handles_recorded _ p batch s
  refine ⟨calls, result, s', run, run_eq_of_performed run, handled.traced, ⟨?_, ?_⟩, ?_⟩
  · rintro ⟨out, rfl⟩
    cases handled.traced with
    | finished answered => exact ⟨calls, s', answered⟩
  · -- Scripts that can be answered make for a handling, and there is only one.
    rintro ⟨calls', s₁, answered⟩
    obtain ⟨out, handled'⟩ := answered.exists_handles
    obtain ⟨_, rfl, _⟩ := handled.unique handled'
    exact ⟨out, rfl⟩
  · rintro before mapFile after text rfl unread
    exact unread.run_withText p.recorded text

/-- Of two scripts and the map of the first, given twice, the second map is unread. -/
theorem run_calls_counting :
    let p : Pipeline (StateM Nat) := .new countingEngine {}
    let before : List OutputFile :=
      [⟨"a.js", "f()", false⟩, ⟨"a.js.map", Document.toJson { sources := ["a.ts"] }, true⟩]
    let again : OutputFile := ⟨"a.js.map", "unread", false⟩
    let after : List OutputFile := [⟨"b.js", "g()", false⟩]
    let batch : List OutputFile := before ++ again :: after
    ∃ calls result s', performed (p.recorded.run batch) [] 0 = ((result, calls), s') ∧
      Calls p batch batch 0 calls result s' ∧ Unread before again after ∧
      p.recorded.run (before ++ again.withText "[" :: after) = p.recorded.run batch := by
  intro p before again after batch
  have unread : Unread before again after := by
    unfold Unread
    decide
  obtain ⟨calls, result, s', run, _, made, _, same⟩ := run_calls p batch 0
  exact ⟨calls, result, s', run, made, unread, same before again after "[" rfl unread⟩

end ScriptMaps
