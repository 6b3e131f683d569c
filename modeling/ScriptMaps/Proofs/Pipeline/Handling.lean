import ScriptMaps.Proofs.Pipeline.Recording

/-!
# What a run does

A run handles the files of a batch one after the other (`Handles`). The engine may remember its
calls in a state. A recorded run is exactly such a handling of all files (`handles_recorded`), and
so what a run does is known from the rules for a single file.
-/

namespace ScriptMaps

variable {σ : Type}

/-- The options a script of a batch is transformed with, once its map has been looked up. -/
def Pipeline.optionsFor {m : Type → Type} (p : Pipeline m) (file : OutputFile)
    (found : Option (OutputFile × SourceMap.Document)) : TransformOptions :=
  fileOptions p.options file (found.map (·.2))

/-- What becomes of files of a batch that are handled one after the other: from one state of the
engine to another, with the calls that are made and what is put out or the fault that ends it. -/
inductive Handles (p : Pipeline (StateM σ)) (batch : List OutputFile) :
    σ → List OutputFile → List EngineCall → Except PipelineFault (List OutputFile) → σ → Prop where
  | done {s : σ} : Handles p batch s [] [] (.ok []) s
  | script {s s₁ s₂ : σ} {file : OutputFile} {files : List OutputFile}
    {found : Option (OutputFile × SourceMap.Document)} {output : TransformOutput}
    {calls : List EngineCall} {result : Except PipelineFault (List OutputFile)} :
    file.kind = .script → parsedMap file batch = .ok found →
    (p.engine file.text (p.optionsFor file found)).run s = (.ok output, s₁) →
    Handles p batch s₁ files calls result s₂ →
    Handles p batch s (file :: files) (⟨file.text, p.optionsFor file found, .ok output⟩ :: calls)
      (result.map (resultFiles file (found.map (·.1)) output ++ ·)) s₂
  | unreadable {s : σ} {file : OutputFile} {files : List OutputFile} {fault : PipelineFault} :
    file.kind = .script → parsedMap file batch = .error fault →
    Handles p batch s (file :: files) [] (.error fault) s
  | refused {s s₁ : σ} {file : OutputFile} {files : List OutputFile}
    {found : Option (OutputFile × SourceMap.Document)} {cause : EngineFault} :
    file.kind = .script → parsedMap file batch = .ok found →
    (p.engine file.text (p.optionsFor file found)).run s = (.error cause, s₁) →
    Handles p batch s (file :: files) [⟨file.text, p.optionsFor file found, .error cause⟩]
      (.error (.transform file.name cause)) s₁
  | sourceMap {s s₁ : σ} {file : OutputFile} {files : List OutputFile} {calls : List EngineCall}
    {result : Except PipelineFault (List OutputFile)} : file.kind = .sourceMap →
    Handles p batch s files calls result s₁ → Handles p batch s (file :: files) calls result s₁
  | other {s s₁ : σ} {file : OutputFile} {files : List OutputFile} {calls : List EngineCall}
    {result : Except PipelineFault (List OutputFile)} : file.kind = .other →
    Handles p batch s files calls result s₁ →
    Handles p batch s (file :: files) calls (result.map (file :: ·)) s₁

/-- What becomes of files is determined by the state they are handled from. -/
lemma Handles.unique {p : Pipeline (StateM σ)} {batch files : List OutputFile}
    {calls calls' : List EngineCall} {result result' : Except PipelineFault (List OutputFile)}
    {s s₁ s₂ : σ} (h : Handles p batch s files calls result s₁)
    (h' : Handles p batch s files calls' result' s₂) :
    calls = calls' ∧ result = result' ∧ s₁ = s₂ := by
  -- Which rule applies is told by the kind of the first file, its map and the answer of the engine.
  induction h generalizing calls' result' with
  | done =>
    cases h'
    exact ⟨rfl, rfl, rfl⟩
  | @script s s₁ s₂ file files found output calls result kind parsed answered _ ih =>
    cases h' with
    | script kind' parsed' answered' others =>
      obtain rfl := Except.ok.inj (parsed.symm.trans parsed')
      obtain ⟨e, rfl⟩ := Prod.mk.inj (answered.symm.trans answered')
      obtain rfl := Except.ok.inj e
      obtain ⟨rfl, rfl, rfl⟩ := ih others
      exact ⟨rfl, rfl, rfl⟩
    | unreadable _ unread => exact nomatch parsed.symm.trans unread
    | refused _ parsed' refused =>
      obtain rfl := Except.ok.inj (parsed.symm.trans parsed')
      exact nomatch answered.symm.trans refused
    | sourceMap map => exact nomatch kind.symm.trans map
    | other other => exact nomatch kind.symm.trans other
  | unreadable kind unread =>
    cases h' with
    | script _ parsed | refused _ parsed => exact nomatch unread.symm.trans parsed
    | unreadable _ unread' =>
      obtain rfl := Except.error.inj (unread.symm.trans unread')
      exact ⟨rfl, rfl, rfl⟩
    | sourceMap map => exact nomatch kind.symm.trans map
    | other other => exact nomatch kind.symm.trans other
  | refused kind parsed refused =>
    cases h' with
    | script _ parsed' answered =>
      obtain rfl := Except.ok.inj (parsed.symm.trans parsed')
      exact nomatch refused.symm.trans answered
    | unreadable _ unread => exact nomatch parsed.symm.trans unread
    | refused _ parsed' refused' =>
      obtain rfl := Except.ok.inj (parsed.symm.trans parsed')
      obtain ⟨e, rfl⟩ := Prod.mk.inj (refused.symm.trans refused')
      obtain rfl := Except.error.inj e
      exact ⟨rfl, rfl, rfl⟩
    | sourceMap map => exact nomatch kind.symm.trans map
    | other other => exact nomatch kind.symm.trans other
  | sourceMap kind _ ih =>
    cases h' with
    | script script | unreadable script | refused script => exact nomatch kind.symm.trans script
    | sourceMap _ others => exact ih others
    | other other => exact nomatch kind.symm.trans other
  | other kind _ ih =>
    cases h' with
    | script script | unreadable script | refused script => exact nomatch kind.symm.trans script
    | sourceMap map => exact nomatch kind.symm.trans map
    | other _ others =>
      obtain ⟨rfl, rfl, rfl⟩ := ih others
      exact ⟨rfl, rfl, rfl⟩

/-- Files that were all handled are built up one by one: what is put out for a file comes before
what is put out for the files after it. -/
@[elab_as_elim]
lemma Handles.ok_induction {p : Pipeline (StateM σ)} {batch : List OutputFile}
    {motive : ∀ (s : σ) (files : List OutputFile) (calls : List EngineCall) (out : List OutputFile)
      (s' : σ), Handles p batch s files calls (.ok out) s' → Prop}
    (done : ∀ {s : σ}, motive s [] [] [] s .done)
    (script : ∀ {s s₁ s₂ : σ} {file : OutputFile} {files : List OutputFile}
      {found : Option (OutputFile × SourceMap.Document)} {output : TransformOutput}
      {calls : List EngineCall} {out : List OutputFile} (kind : file.kind = .script)
      (parsed : parsedMap file batch = .ok found)
      (answered : (p.engine file.text (p.optionsFor file found)).run s = (.ok output, s₁))
      (others : Handles p batch s₁ files calls (.ok out) s₂), motive s₁ files calls out s₂ others →
      motive s (file :: files) (⟨file.text, p.optionsFor file found, .ok output⟩ :: calls)
        (resultFiles file (found.map (·.1)) output ++ out) s₂ (.script kind parsed answered others))
    (sourceMap : ∀ {s s₁ : σ} {file : OutputFile} {files : List OutputFile}
      {calls : List EngineCall} {out : List OutputFile} (kind : file.kind = .sourceMap)
      (others : Handles p batch s files calls (.ok out) s₁), motive s files calls out s₁ others →
      motive s (file :: files) calls out s₁ (.sourceMap kind others))
    (other : ∀ {s s₁ : σ} {file : OutputFile} {files : List OutputFile}
      {calls : List EngineCall} {out : List OutputFile} (kind : file.kind = .other)
      (others : Handles p batch s files calls (.ok out) s₁), motive s files calls out s₁ others →
      motive s (file :: files) calls (file :: out) s₁ (.other kind others))
    {s : σ} {files : List OutputFile} {calls : List EngineCall} {out : List OutputFile} {s' : σ}
    (h : Handles p batch s files calls (.ok out) s') : motive s files calls out s' h := by
  -- The rules are about any result, so the induction is too.
  suffices ∀ result, Handles p batch s files calls result s' → ∀ out, result = .ok out →
      ∀ h, motive s files calls out s' h from this _ h out rfl h
  clear h
  intro result handled
  induction handled with
  | done =>
    rintro _ ⟨⟩ _
    exact done
  | @script _ _ _ _ _ _ _ _ result kind parsed answered others ih =>
    cases result with
    | error => nofun
    | ok rest =>
      rintro _ ⟨⟩ _
      exact script kind parsed answered others (ih rest rfl others)
  | unreadable | refused => nofun
  | sourceMap kind others ih =>
    rintro out ⟨⟩ _
    exact sourceMap kind others (ih out rfl others)
  | @other _ _ _ _ _ result kind others ih =>
    cases result with
    | error => nofun
    | ok rest =>
      rintro _ ⟨⟩ _
      exact other kind others (ih rest rfl others)

/-! ## Recorded runs -/

section Recorded

variable {p : Pipeline (StateM σ)} {batch : List OutputFile} {ε α β ω : Type}

/-- After a result the next computation goes on. -/
lemma run_bind_ok {x : ExceptT ε (StateM σ) α} {f : α → ExceptT ε (StateM σ) β} {a : α} {s s' : σ}
    (h : x.run.run s = (.ok a, s')) : (x >>= f).run.run s = (f a).run.run s' := by
  rw [ExceptT.run_bind, StateT.run_bind, h]
  rfl

/-- After a fault nothing goes on. -/
lemma run_bind_error {x : ExceptT ε (StateM σ) α} {f : α → ExceptT ε (StateM σ) β} {e : ε}
    {s s' : σ} (h : x.run.run s = (.error e, s')) : (x >>= f).run.run s = (.error e, s') := by
  rw [ExceptT.run_bind, StateT.run_bind, h]
  rfl

/-- If there is a result at the end, then there was one before. -/
lemma exists_of_run_bind {x : ExceptT ε (StateM σ) α} {f : α → ExceptT ε (StateM σ) β} {b : β}
    {s s' : σ} (h : (x >>= f).run.run s = (.ok b, s')) :
    ∃ a s₁, x.run.run s = (.ok a, s₁) ∧ (f a).run.run s₁ = (.ok b, s') := by
  rcases first : x.run.run s with ⟨result, s₁⟩
  cases result with
  | error e => exact nomatch (run_bind_error first).symm.trans h
  | ok a => exact ⟨a, s₁, rfl, (run_bind_ok first).symm.trans h⟩

/-- A fault that is reported in other words is the same fault. -/
lemma run_adapt {ε' : Type} {x : ExceptT ε (StateM σ) α} {result : Except ε α} {s s' : σ}
    (h : x.run.run s = (result, s')) (wrap : ε → ε') :
    (x.adapt wrap).run.run s = (result.mapError wrap, s') := by
  rw [ExceptT.run_adapt, StateT.run_map, h]
  rfl

/-- What succeeds with a fault reported in other words succeeds without. -/
lemma of_run_adapt {ε' : Type} {x : ExceptT ε (StateM σ) α} {wrap : ε → ε'} {a : α} {s s' : σ}
    (h : (x.adapt wrap).run.run s = (.ok a, s')) : x.run.run s = (.ok a, s') := by
  rcases run : x.run.run s with ⟨result, s₁⟩
  cases result with
  | error e => exact nomatch (run_adapt run wrap).symm.trans h
  | ok a' =>
    cases (run_adapt run wrap).symm.trans h
    rfl

/-- What a computation that takes notes does from a state and with the notes taken before: its
result, and the notes and the state after it. -/
def performed (x : ExceptT ε (StateT ω (StateM σ)) α) (notes : ω) (s : σ) :
    (Except ε α × ω) × σ :=
  (x.run.run notes).run s

/-- A result does nothing. -/
lemma performed_pure (a : α) (notes : ω) (s : σ) :
    performed (pure a : ExceptT ε _ α) notes s = ((.ok a, notes), s) := rfl

/-- What cannot fail does what it does. -/
lemma performed_lift {x : StateT ω (StateM σ) α} {a : α} {notes notes' : ω} {s s' : σ}
    (h : (x.run notes).run s = ((a, notes'), s')) :
    performed (ExceptT.lift x : ExceptT ε _ α) notes s = ((.ok a, notes'), s') := by
  unfold performed
  rw [ExceptT.run_lift, StateT.run_map, StateT.run_map, h]
  rfl

/-- The notes of the next computation come after those of the first. -/
lemma performed_bind_ok {x : ExceptT ε (StateT ω (StateM σ)) α}
    {f : α → ExceptT ε (StateT ω (StateM σ)) β} {a : α} {notes notes' : ω} {s s' : σ}
    (h : performed x notes s = ((.ok a, notes'), s')) :
    performed (x >>= f) notes s = performed (f a) notes' s' := by
  unfold performed at h ⊢
  rw [ExceptT.run_bind, StateT.run_bind, StateT.run_bind, h]
  rfl

/-- After a fault no more notes are taken. -/
lemma performed_bind_error {x : ExceptT ε (StateT ω (StateM σ)) α}
    {f : α → ExceptT ε (StateT ω (StateM σ)) β} {e : ε} {notes notes' : ω} {s s' : σ}
    (h : performed x notes s = ((.error e, notes'), s')) :
    performed (x >>= f) notes s = ((.error e, notes'), s') := by
  unfold performed at h ⊢
  rw [ExceptT.run_bind, StateT.run_bind, StateT.run_bind, h]
  rfl

/-- A function applied to the result takes no notes. -/
lemma performed_bind_pure {x : ExceptT ε (StateT ω (StateM σ)) α} {result : Except ε α}
    {notes notes' : ω} {s s' : σ} (h : performed x notes s = ((result, notes'), s')) (f : α → β) :
    performed (x >>= fun a => pure (f a)) notes s = ((result.map f, notes'), s') := by
  cases result with
  | ok => exact performed_bind_ok h
  | error => exact performed_bind_error h

section Notes

variable {note : EngineCall → ω} {notes : List ω} {s s₁ s₂ : σ}

/-- A note is taken of a call of an engine. -/
lemma performed_noting (code : String) (options : TransformOptions) (wrap : EngineFault → ε) :
    performed (((p.noting note).engine code options).adapt wrap) notes s =
      ((((p.engine code options).run s).1.mapError wrap,
        notes ++ [note ⟨code, options, ((p.engine code options).run s).1⟩]),
        ((p.engine code options).run s).2) := rfl

/-- What a script becomes, if its map cannot be read. -/
lemma performed_unreadable {file : OutputFile} (script : file.kind = .script)
    {fault : PipelineFault} (parsed : parsedMap file batch = .error fault) :
    performed ((p.noting note).fileResults batch file) notes s = ((.error fault, notes), s) := by
  unfold Pipeline.fileResults
  rw [script]
  dsimp only
  unfold Pipeline.transformFile
  rw [parsed]
  rfl

/-- What a script becomes, once its map has been looked up. -/
lemma performed_script {file : OutputFile} (script : file.kind = .script)
    {found : Option (OutputFile × SourceMap.Document)} (parsed : parsedMap file batch = .ok found)
    {answer : Except EngineFault TransformOutput}
    (answered : (p.engine file.text (p.optionsFor file found)).run s = (answer, s₁)) :
    performed ((p.noting note).fileResults batch file) notes s =
      (((answer.mapError (.transform file.name)).map (resultFiles file (found.map (·.1))),
        notes ++ [⟨file.text, p.optionsFor file found, answer⟩].map note), s₁) := by
  have call := @performed_noting _ p _ _ note notes s file.text (p.optionsFor file found)
    (PipelineFault.transform file.name)
  rw [answered] at call
  unfold Pipeline.fileResults
  rw [script]
  dsimp only
  unfold Pipeline.transformFile
  rw [parsed]
  change performed (((p.noting note).engine file.text (p.optionsFor file found)).adapt
    (PipelineFault.transform file.name) >>= _) _ _ = _
  cases answer with
  | ok output =>
    rw [performed_bind_ok call]
    rfl
  | error cause =>
    rw [performed_bind_error call]
    rfl

/-- A map becomes nothing by itself. -/
lemma performed_sourceMap {file : OutputFile} (sourceMap : file.kind = .sourceMap) :
    performed ((p.noting note).fileResults batch file) notes s =
      ((.ok [], notes ++ [].map note), s) := by
  rw [Pipeline.fileResults, sourceMap, List.map_nil, List.append_nil]
  rfl

/-- A file that is neither a script nor a map stays as it is. -/
lemma performed_other {file : OutputFile} (other : file.kind = .other) :
    performed ((p.noting note).fileResults batch file) notes s =
      ((.ok [file], notes ++ [].map note), s) := by
  rw [Pipeline.fileResults, other, List.map_nil, List.append_nil]
  rfl

/-- What the files of a batch become, if what the first one becomes is known. -/
lemma performed_cons {file : OutputFile} {files block : List OutputFile}
    {made more : List EngineCall} {blocks : Except PipelineFault (List (List OutputFile))}
    (first : performed ((p.noting note).fileResults batch file) notes s =
      ((.ok block, notes ++ made.map note), s₁))
    (others : ∀ notes, performed (files.mapM ((p.noting note).fileResults batch)) notes s₁ =
      ((blocks, notes ++ more.map note), s₂)) :
    performed ((file :: files).mapM ((p.noting note).fileResults batch)) notes s =
      ((blocks.map (block :: ·), notes ++ (made ++ more).map note), s₂) := by
  rw [List.mapM_cons, performed_bind_ok first, List.map_append, ← List.append_assoc]
  exact performed_bind_pure (others _) _

end Notes

/-- The results of files are those of the first one and then those of the others. -/
lemma map_flatten_cons (block : List α) (blocks : Except ε (List (List α))) :
    (blocks.map (block :: ·)).map List.flatten = (blocks.map List.flatten).map (block ++ ·) := by
  cases blocks <;> rfl

/-- Files that a run goes through are handled by the rules, whatever notes are taken of it. -/
lemma handles_mapM (files : List OutputFile) (s : σ) :
    ∃ made blocks s', Handles p batch s files made (Except.map List.flatten blocks) s' ∧
      ∀ {ω : Type} (note : EngineCall → ω) (notes : List ω),
        performed (files.mapM ((p.noting note).fileResults batch)) notes s =
          ((blocks, notes ++ made.map note), s') := by
  -- The calls and the state afterwards are the same whatever notes are taken, so they come first.
  induction files generalizing s with
  | nil =>
    refine ⟨[], .ok [], s, .done, fun note notes => ?_⟩
    rw [List.mapM_nil, performed_pure, List.map_nil, List.append_nil]
  | cons file files ih =>
    cases kind : file.kind with
    | script =>
      cases parsed : parsedMap file batch with
      | error fault =>
        refine ⟨[], .error fault, s, .unreadable kind parsed, fun note notes => ?_⟩
        rw [List.mapM_cons, performed_bind_error (performed_unreadable kind parsed), List.map_nil,
          List.append_nil]
      | ok found =>
        rcases e : (p.engine file.text (p.optionsFor file found)).run s with ⟨answer, s₁⟩
        cases answer with
        | error cause =>
          refine ⟨_, .error (.transform file.name cause), s₁, .refused kind parsed e,
            fun note notes => ?_⟩
          rw [List.mapM_cons]
          exact performed_bind_error (performed_script kind parsed e)
        | ok output =>
          obtain ⟨made, blocks, s₂, handled, others⟩ := ih s₁
          refine ⟨_, _, s₂, ?_, fun note notes =>
            performed_cons (performed_script kind parsed e) (others note)⟩
          rw [map_flatten_cons]
          exact .script kind parsed e handled
    | sourceMap =>
      obtain ⟨made, blocks, s', handled, others⟩ := ih s
      refine ⟨_, _, s', ?_, fun note notes =>
        performed_cons (performed_sourceMap kind) (others note)⟩
      have same : ((blocks.map ([] :: ·)).map List.flatten) = blocks.map List.flatten := by
        cases blocks <;> rfl
      rw [same]
      exact .sourceMap kind handled
    | other =>
      obtain ⟨made, blocks, s', handled, others⟩ := ih s
      refine ⟨_, _, s', ?_, fun note notes => performed_cons (performed_other kind) (others note)⟩
      rw [map_flatten_cons]
      exact .other kind handled

/-- A run handles all files of its batch, whatever notes are taken of it. -/
lemma handles_noting (s : σ) :
    ∃ calls result s', Handles p batch s batch calls result s' ∧
      ∀ {ω : Type} (note : EngineCall → ω) (notes : List ω),
        performed ((p.noting note).run batch) notes s =
          ((result, notes ++ calls.map note), s') := by
  obtain ⟨calls, blocks, s', handled, run⟩ := @handles_mapM _ p batch batch s
  exact ⟨calls, _, s', handled, fun note notes => performed_bind_pure (run note notes) List.flatten⟩

/-- A recorded run handles all files of its batch. -/
theorem handles_recorded (s : σ) :
    ∃ calls result s', Handles p batch s batch calls result s' ∧
      performed (p.recorded.run batch) [] s = ((result, calls), s') := by
  obtain ⟨calls, result, s', handled, run⟩ := @handles_noting _ p batch s
  refine ⟨calls, result, s', handled, ?_⟩
  have recorded := run id []
  rw [List.map_id, List.nil_append] at recorded
  exact recorded

/-- A recorded run is known once its files have been handled. -/
lemma Handles.performed_recorded {calls : List EngineCall}
    {result : Except PipelineFault (List OutputFile)} {s s' : σ}
    (h : Handles p batch s batch calls result s') :
    performed (p.recorded.run batch) [] s = ((result, calls), s') := by
  obtain ⟨calls', result', s₁, h', run⟩ := @handles_recorded _ p batch s
  obtain ⟨rfl, rfl, rfl⟩ := h.unique h'
  exact run

/-- A pass handles all files of its batch. -/
theorem handles_pass (s : σ) :
    ∃ calls result s', Handles p batch s batch calls result s' ∧
      (p.pass batch).run.run s = (result.map (⟨calls, ·⟩), s') := by
  obtain ⟨calls, result, s', handled, run⟩ := @handles_recorded _ p batch s
  refine ⟨calls, result, s', handled, ?_⟩
  unfold performed at run
  rw [Pipeline.pass, ExceptT.run_mk, StateT.run_bind, run]
  rfl

/-- A run handles all files of its batch. -/
theorem handles_run (s : σ) :
    ∃ calls result s', Handles p batch s batch calls result s' ∧
      (p.run batch).run.run s = (result, s') := by
  obtain ⟨calls, result, s', handled, pass⟩ := @handles_pass _ p batch s
  refine ⟨calls, result, s', handled, ?_⟩
  rw [← p.output_pass batch, ExceptT.run_map, StateT.run_map, pass]
  cases result <;> rfl

/-- A run does what a recorded run does. -/
lemma run_eq_of_performed {calls : List EngineCall}
    {result : Except PipelineFault (List OutputFile)} {s s' : σ}
    (h : performed (p.recorded.run batch) [] s = ((result, calls), s')) :
    (p.run batch).run.run s = (result, s') := by
  rw [← forgets_run p batch [], StateT.run_map]
  unfold performed at h
  rw [h]
  rfl

end Recorded

/-! ## Passes -/

/-- Passes that were made one after the other, from a batch on. -/
inductive Passed (p : Pipeline (StateM σ)) : List OutputFile → List Pass → Prop where
  | none (batch : List OutputFile) : Passed p batch []
  | one {batch : List OutputFile} {s s' : σ} {pass : Pass} {passes : List Pass} :
    Handles p batch s batch pass.calls (.ok pass.output) s' → Passed p pass.output passes →
    Passed p batch (pass :: passes)

/-- Passes that all succeed were made one after the other. -/
theorem passed_of_passes {p : Pipeline (StateM σ)} {n : Nat} {batch : List OutputFile} {s s' : σ}
    {passes : List Pass} (h : (p.passes n batch).run.run s = (.ok passes, s')) :
    Passed p batch passes ∧ passes.length = n := by
  induction n generalizing batch s passes with
  | zero =>
    cases h
    exact ⟨.none batch, rfl⟩
  | succ n ih =>
    obtain ⟨calls, result, s₁, handled, first⟩ := @handles_pass _ p batch s
    rw [Pipeline.passes, ExceptT.run_bind, StateT.run_bind, first] at h
    cases result with
    | error => cases h
    | ok out =>
      change ((p.passes n out >>= fun rest => pure (⟨calls, out⟩ :: rest)).run.run s₁) = _ at h
      rw [ExceptT.run_bind, StateT.run_bind] at h
      rcases e : (p.passes n out).run.run s₁ with ⟨rest, s₂⟩
      rw [e] at h
      cases rest with
      | error => cases h
      | ok rest =>
        cases h
        obtain ⟨passed, length⟩ := ih e
        exact ⟨.one handled passed, congrArg (· + 1) length⟩

end ScriptMaps
