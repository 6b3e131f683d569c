import ScriptMaps.Proofs.Pipeline.Chaining
import ScriptMaps.Pipeline.Debug
import Mathlib.Data.List.Perm.Subperm

/-!
# Runs with hooks

What happens in a run with hooks is seen by giving it hooks that tell of their beginnings and ends,
and an engine that tells of its calls (`Pipeline.watchDebug`). Hooks are begun for all files in
order; then they end in whatever order their delays give, each at most once, until all have ended or
one has failed (`Ends`). A run with hooks goes through three phases, and what comes of one decides
whether there is a next (`Phases`): the hooks for its files, the calls of the run without hooks, and
the hooks for the results.
-/

namespace ScriptMaps

open ScriptMaps.SourceMap (Document)

variable {σ : Type}

/-- Something that happens in a run with hooks. -/
inductive DebugEvent where
  | began (stage : HookStage) (file : OutputFile)
  | ended (stage : HookStage) (file : OutputFile) (outcome : Except Report Unit)
  | called (call : EngineCall)

section Watching

variable {m : Type → Type} [Monad m]

/-- A hook of a file that tells when it ends. -/
def Hook.watched (hook : Hook m) (stage : HookStage) (file : OutputFile) :
    Hook (StateT (List DebugEvent) m) where
  delay := hook.delay
  finish := ExceptT.mk do
    let outcome ← hook.finish.run
    modify (· ++ [.ended stage file outcome])
    return outcome

/-- Hooks that tell when they are begun and when they end. -/
def Hooks.watched (hooks : Hooks m) (stage : HookStage) : Hooks (StateT (List DebugEvent) m) :=
  fun file => do
    modify (· ++ [.began stage file])
    let hook ← hooks file
    return hook.watched stage file

/-- A run with hooks that tells what happens in it. -/
def Pipeline.watchDebug (p : Pipeline m) (onInput onOutput : Hooks m) (batch : List OutputFile) :
    ExceptT PipelineFault (StateT (List DebugEvent) m) (List OutputFile) :=
  (p.noting .called).runDebug (onInput.watched .input) (onOutput.watched .output) batch

end Watching

/-- A hook of a file may end in some way if it does so in some states. -/
def Hooks.MayEnd (hooks : Hooks (StateM σ)) (file : OutputFile) (outcome : Except Report Unit) :
    Prop :=
  ∃ s hook s', (hooks file).run s = (hook, s') ∧ ∃ t t', hook.finish.run.run t = (outcome, t')

/-- What comes of hooks that were begun for files. Either the hooks of some files end well, and
those of the rest are not done; or after some a hook fails, and its file is named. -/
inductive Ends (mayEnd : OutputFile → Except Report Unit → Prop) (stage : HookStage)
    (files : List OutputFile) :
    List DebugEvent → Except PipelineFault (List OutputFile) → Prop where
  | well {done rest : List OutputFile} : (done ++ rest).Perm files →
    (∀ file ∈ done, mayEnd file (.ok ())) →
    Ends mayEnd stage files (done.map (.ended stage · (.ok ()))) (.ok rest)
  | badly {done : List OutputFile} {file : OutputFile} {cause : Report} :
    (done ++ [file]).Subperm files → (∀ file ∈ done, mayEnd file (.ok ())) →
    mayEnd file (.error cause) →
    Ends mayEnd stage files
      (done.map (.ended stage · (.ok ())) ++ [.ended stage file (.error cause)])
      (.error (.hook stage file.name cause))

section Ends

variable {mayEnd : OutputFile → Except Report Unit → Prop} {stage : HookStage}
variable {files rest : List OutputFile} {file : OutputFile} {events more : List DebugEvent}
variable {result : Except PipelineFault (List OutputFile)}

/-- Without hooks nothing happens. -/
lemma Ends.nil : Ends mayEnd stage [] [] (.ok []) := by
  have none : ∀ file ∈ ([] : List OutputFile), mayEnd file (.ok ()) := List.forall_mem_nil _
  exact .well (.refl []) none

/-- A hook ends well before the others go on. -/
lemma Ends.cons_well (h : Ends mayEnd stage files events result) (well : mayEnd file (.ok ())) :
    Ends mayEnd stage (file :: files) (.ended stage file (.ok ()) :: events) result := by
  cases h with
  | well all each => exact .well (all.cons file) (List.forall_mem_cons.2 ⟨well, each⟩)
  | badly some each bad =>
    have more := (List.subperm_cons file).2 some
    exact .badly more (List.forall_mem_cons.2 ⟨well, each⟩) bad

/-- A hook waits, and it is among those that are not done. -/
lemma Ends.cons_waiting (h : Ends mayEnd stage files events result) :
    Ends mayEnd stage (file :: files) events (result.map (file :: ·)) := by
  cases h with
  | well all each => exact .well (List.perm_middle.trans (all.cons file)) each
  | badly some each bad => exact .badly (some.cons_right file) each bad

/-- A hook fails, and nothing happens after it. -/
lemma Ends.cons_badly {cause : Report} (bad : mayEnd file (.error cause)) :
    Ends mayEnd stage (file :: files) [.ended stage file (.error cause)]
      (.error (.hook stage file.name cause)) := by
  have none : ∀ file ∈ ([] : List OutputFile), mayEnd file (.ok ()) := List.forall_mem_nil _
  have first : [file].Subperm (file :: files) := List.singleton_subperm_iff.2 List.mem_cons_self
  exact .badly first none bad

/-- Hooks that are not done go on from where the others have ended. -/
lemma Ends.trans (h : Ends mayEnd stage files events (.ok rest))
    (h' : Ends mayEnd stage rest more result) :
    Ends mayEnd stage files (events ++ more) result := by
  cases h with
  | @well done _ all each =>
    cases h' with
    | @well done' rest' all' each' =>
      rw [← List.map_append]
      refine .well ?_ (List.forall_mem_append.2 ⟨each, each'⟩)
      rw [List.append_assoc]
      exact (all'.append_left done).trans all
    | @badly done' file cause some each' bad =>
      rw [← List.append_assoc, ← List.map_append]
      refine .badly ?_ (List.forall_mem_append.2 ⟨each, each'⟩) bad
      rw [List.append_assoc]
      exact ((List.subperm_append_left done).2 some).trans all.subperm

end Ends

/-! ## Rounds -/

/-- Hooks that were begun for files. -/
abbrev Begun (σ : Type) : Type := List (OutputFile × Hook (StateM σ))

namespace Begun

/-- Hooks that were begun, under the names of their files. -/
def pending (begun : Begun σ) : List (String × Hook (StateM σ)) :=
  begun.map fun (file, hook) => (file.name, hook)

/-- Hooks that were begun and tell of their ends. -/
def watched (begun : Begun σ) (stage : HookStage) :
    List (String × Hook (StateT (List DebugEvent) (StateM σ))) :=
  begun.map fun (file, hook) => (file.name, hook.watched stage file)

/-- The files that hooks were begun for. -/
def files (begun : Begun σ) : List OutputFile := begun.map (·.1)

/-- The hooks that are not done after a round. -/
def waiting : Begun σ → Begun σ
  | [] => []
  | (file, hook) :: begun =>
    match hook.delay with
    | 0 => waiting begun
    | delay + 1 => (file, ⟨delay, hook.finish⟩) :: waiting begun

/-- Hooks only end as they may. -/
def Bound (mayEnd : OutputFile → Except Report Unit → Prop) (begun : Begun σ) : Prop :=
  ∀ x ∈ begun, ∀ outcome s s', x.2.finish.run.run s = (outcome, s') → mayEnd x.1 outcome

/-- Hooks leave what is seen of a state as it is. -/
def Spares {τ : Type} (view : σ → τ) (begun : Begun σ) : Prop :=
  ∀ x ∈ begun, ∀ s, view (x.2.finish.run.run s).2 = view s

variable {mayEnd : OutputFile → Except Report Unit → Prop} {stage : HookStage} {begun : Begun σ}

/-- A hook that is not done has waited a round. -/
lemma exists_of_mem_waiting {x : OutputFile × Hook (StateM σ)} (h : x ∈ begun.waiting) :
    ∃ y ∈ begun, y.1 = x.1 ∧ y.2.delay = x.2.delay + 1 ∧ y.2.finish = x.2.finish := by
  induction begun with
  | nil => exact absurd h List.not_mem_nil
  | cons y begun ih =>
    obtain ⟨file, delay, finish⟩ := y
    cases delay with
    | zero =>
      obtain ⟨y, mem, same⟩ := ih h
      exact ⟨y, List.mem_cons_of_mem _ mem, same⟩
    | succ delay =>
      rcases List.mem_cons.1 h with rfl | mem
      · exact ⟨_, List.mem_cons_self, rfl, rfl, rfl⟩
      · obtain ⟨y, mem, same⟩ := ih mem
        exact ⟨y, List.mem_cons_of_mem _ mem, same⟩

/-- Hooks that wait still only end as they may. -/
lemma Bound.waiting (h : Bound mayEnd begun) : Bound mayEnd begun.waiting := by
  intro x mem
  obtain ⟨y, mem, file, -, finish⟩ := exists_of_mem_waiting mem
  rw [← file, ← finish]
  exact h y mem

/-- Hooks that wait still leave what is seen of a state as it is. -/
lemma Spares.waiting {τ : Type} {view : σ → τ} (h : Spares view begun) :
    Spares view begun.waiting := by
  intro x mem
  obtain ⟨y, mem, -, -, finish⟩ := exists_of_mem_waiting mem
  rw [← finish]
  exact h y mem

/-- Hooks that have waited a round have one round less to wait. -/
lemma delay_lt_of_mem_waiting {n : Nat} (h : ∀ x ∈ begun, x.2.delay < n + 1) :
    ∀ x ∈ begun.waiting, x.2.delay < n := by
  intro x mem
  obtain ⟨y, mem, -, delay, -⟩ := exists_of_mem_waiting mem
  have less := h y mem
  rw [delay] at less
  exact Nat.lt_of_succ_lt_succ less

section Finish

variable {hook : Hook (StateM σ)} {outcome : Except Report Unit} {s s' : σ}

/-- A watched hook tells with what it ended. -/
lemma performed_finish (ended : hook.finish.run.run s = (outcome, s')) (file : OutputFile)
    (wrap : Report → PipelineFault) (events : List DebugEvent) :
    performed ((hook.watched stage file).finish.adapt wrap) events s =
      ((outcome.mapError wrap, events ++ [.ended stage file outcome]), s') := by
  have told : performed ((hook.watched stage file).finish.adapt wrap) events s =
      (((hook.finish.run.run s).1.mapError wrap,
        events ++ [.ended stage file (hook.finish.run.run s).1]), (hook.finish.run.run s).2) := rfl
  rw [ended] at told
  exact told

end Finish

/-- What happens in a round, and that telling it changes nothing. -/
lemma round_ends (bound : Bound mayEnd begun) (s : σ) :
    ∃ ends result s',
      Ends mayEnd stage begun.files ends (Except.map (fun _ => begun.waiting.files) result) ∧
      (Hooks.round stage begun.pending).run.run s =
        (Except.map (fun _ : Unit => begun.waiting.pending) result, s') ∧
      (∀ events, performed (Hooks.round stage (begun.watched stage)) events s =
        ((Except.map (fun _ => begun.waiting.watched stage) result, events ++ ends), s')) ∧
      ∀ {τ : Type} (view : σ → τ), begun.Spares view → view s' = view s := by
  induction begun generalizing s with
  | nil =>
    refine ⟨[], .ok (), s, .nil, rfl, fun events => ?_, fun _ _ => rfl⟩
    rw [List.append_nil]
    rfl
  | cons x begun ih =>
    obtain ⟨first, others⟩ := List.forall_mem_cons.1 bound
    obtain ⟨file, delay, finish⟩ := x
    cases delay with
    | zero =>
      -- The hook ends now, and the others follow if it ends well.
      rcases e : finish.run.run s with ⟨outcome, s₁⟩
      have may := first _ _ _ e
      have plainly := run_adapt e (PipelineFault.hook stage file.name)
      have told := @performed_finish _ stage ⟨0, finish⟩ _ _ _ e file (.hook stage file.name)
      have spared {τ : Type} (seen : σ → τ) (h : ∀ s, seen (finish.run.run s).2 = seen s) :
          seen s₁ = seen s := by
        have step := h s
        rw [e] at step
        exact step
      cases outcome with
      | ok =>
        obtain ⟨ends, result, s', spec, plain, watched, view⟩ := ih others s₁
        refine ⟨_, result, s', spec.cons_well may, (run_bind_ok plainly).trans plain,
          fun events => ?_, fun seen spares => ?_⟩
        · rw [List.append_cons]
          exact (performed_bind_ok (told events)).trans (watched _)
        · obtain ⟨now, later⟩ := List.forall_mem_cons.1 spares
          exact (view seen later).trans (spared seen now)
      | error cause =>
        exact ⟨_, .error (.hook stage file.name cause), s₁, .cons_badly may, run_bind_error plainly,
          fun events => performed_bind_error (told events),
          fun seen spares => spared seen (List.forall_mem_cons.1 spares).1⟩
    | succ delay =>
      obtain ⟨ends, result, s', spec, plain, watched, view⟩ := ih others s
      have later {τ : Type} (seen : σ → τ)
          (h : Spares seen ((file, ⟨delay + 1, finish⟩) :: begun)) : seen s' = seen s :=
        view seen (List.forall_mem_cons.1 h).2
      cases result with
      | ok =>
        exact ⟨ends, .ok (), s', spec.cons_waiting, run_bind_ok plain,
          fun events => performed_bind_ok (watched events), later⟩
      | error fault =>
        exact ⟨ends, .error fault, s', spec.cons_waiting, run_bind_error plain,
          fun events => performed_bind_error (watched events), later⟩

/-- What happens in enough rounds, and that telling it changes nothing. -/
lemma rounds_ends {n : Nat} (bound : Bound mayEnd begun) (enough : ∀ x ∈ begun, x.2.delay < n)
    (s : σ) :
    ∃ ends result s', Ends mayEnd stage begun.files ends (Except.map (fun _ => []) result) ∧
      (Hooks.rounds stage n begun.pending).run.run s = (result, s') ∧
      (∀ events, performed (Hooks.rounds stage n (begun.watched stage)) events s =
        ((result, events ++ ends), s')) ∧
      ∀ {τ : Type} (view : σ → τ), begun.Spares view → view s' = view s := by
  induction n generalizing begun s with
  | zero =>
    have none : begun = [] := List.eq_nil_iff_forall_not_mem.2 fun x mem =>
      absurd (enough x mem) (Nat.not_lt_zero _)
    rw [none]
    refine ⟨[], .ok (), s, .nil, rfl, fun events => ?_, fun _ _ => rfl⟩
    rw [List.append_nil]
    rfl
  | succ n ih =>
    obtain ⟨ends, result, s₁, spec, plain, watched, view⟩ := @round_ends _ _ stage _ bound s
    cases result with
    | ok =>
      -- Those that wait are done in the rounds that are left.
      obtain ⟨more, result, s', spec', plain', watched', view'⟩ :=
        ih bound.waiting (delay_lt_of_mem_waiting enough) s₁
      refine ⟨ends ++ more, result, s', spec.trans spec', (run_bind_ok plain).trans plain',
        fun events => ?_, fun seen spares =>
          (view' seen spares.waiting).trans (view seen spares)⟩
      rw [← List.append_assoc]
      exact (performed_bind_ok (watched events)).trans (watched' _)
    | error fault =>
      exact ⟨ends, .error fault, s₁, spec, run_bind_error plain,
        fun events => performed_bind_error (watched events), view⟩

/-- The number of rounds in which hooks are done. -/
def roundCount (begun : Begun σ) : Nat := begun.foldl (fun n x => max n (x.2.delay + 1)) 0

/-- The number of rounds does not depend on the names of files. -/
lemma roundCount_pending : Hooks.roundCount begun.pending = begun.roundCount := List.foldl_map

/-- Telling of the ends does not change the number of rounds. -/
lemma roundCount_watched : Hooks.roundCount (begun.watched stage) = begun.roundCount :=
  List.foldl_map

/-- There are enough rounds for each hook. -/
lemma delay_lt_roundCount : ∀ x ∈ begun, x.2.delay < begun.roundCount := by
  suffices h : ∀ n, n ≤ begun.foldl (fun n x => max n (x.2.delay + 1)) n ∧
      ∀ x ∈ begun, x.2.delay < begun.foldl (fun n x => max n (x.2.delay + 1)) n from (h 0).2
  induction begun with
  | nil => exact fun n => ⟨Nat.le_refl n, List.forall_mem_nil _⟩
  | cons x begun ih =>
    intro n
    obtain ⟨least, others⟩ := ih (max n (x.2.delay + 1))
    rw [List.foldl_cons]
    refine ⟨Nat.le_trans (Nat.le_max_left _ _) least, List.forall_mem_cons.2 ⟨?_, others⟩⟩
    exact Nat.le_trans (Nat.le_max_right n (x.2.delay + 1)) least

end Begun

/-! ## A set of hooks -/

/-- Hooks leave what is seen of a state as it is. -/
def Hooks.Spares {τ : Type} (hooks : Hooks (StateM σ)) (view : σ → τ) : Prop :=
  ∀ file s, view ((hooks file).run s).2 = view s ∧
    ∀ t, view (((hooks file).run s).1.finish.run.run t).2 = view t

/-- Hooks are begun for the first file and then for the others. -/
lemma begin_cons {m : Type → Type} [Monad m] [LawfulMonad m] (hooks : Hooks m) (file : OutputFile)
    (files : List OutputFile) :
    hooks.begin (file :: files) = do
      let hook ← hooks file
      return (file.name, hook) :: (← hooks.begin files) := by
  simp [Hooks.begin]

/-- How hooks are begun, and that telling it changes nothing. -/
lemma exists_begun (hooks : Hooks (StateM σ)) (stage : HookStage) (files : List OutputFile)
    (s : σ) :
    ∃ (begun : Begun σ) (s' : σ), begun.files = files ∧ begun.Bound hooks.MayEnd ∧
      (hooks.begin files).run s = (begun.pending, s') ∧
      (∀ events, (((hooks.watched stage).begin files).run events).run s =
        ((begun.watched stage, events ++ files.map (.began stage)), s')) ∧
      ∀ {τ : Type} (view : σ → τ), hooks.Spares view → begun.Spares view ∧ view s' = view s := by
  induction files generalizing s with
  | nil =>
    have bound : Begun.Bound hooks.MayEnd ([] : Begun σ) := List.forall_mem_nil _
    refine ⟨[], s, rfl, bound, rfl, fun events => ?_, fun _ _ => ⟨List.forall_mem_nil _, rfl⟩⟩
    rw [List.map_nil, List.append_nil]
    rfl
  | cons file files ih =>
    rcases e : (hooks file).run s with ⟨hook, s₁⟩
    obtain ⟨begun, s', same, bound, plain, watched, view⟩ := ih s₁
    refine ⟨(file, hook) :: begun, s', congrArg (file :: ·) same, ?_, ?_, fun events => ?_,
      fun seen spares => ?_⟩
    · refine List.forall_mem_cons.2 ⟨fun outcome t t' ended => ?_, bound⟩
      exact ⟨s, hook, s₁, e, t, t', ended⟩
    · rw [begin_cons, StateT.run_bind, e]
      change ((hooks.begin files >>= _ : StateM σ _)).run s₁ = _
      rw [StateT.run_bind, plain]
      rfl
    · have told : ((hooks.watched stage file).run events).run s =
          ((((hooks file).run s).1.watched stage file, events ++ [.began stage file]),
            ((hooks file).run s).2) := rfl
      rw [e] at told
      rw [begin_cons, StateT.run_bind, StateT.run_bind, told]
      change (((hooks.watched stage).begin files >>= _ :
        StateT (List DebugEvent) (StateM σ) _).run _).run s₁ = _
      rw [StateT.run_bind, StateT.run_bind, watched, List.map_cons,
        List.append_cons events (.began stage file) (files.map _)]
      rfl
    · obtain ⟨later, after⟩ := view seen spares
      obtain ⟨step, now⟩ := spares file s
      rw [e] at step now
      exact ⟨List.forall_mem_cons.2 ⟨now, later⟩, after.trans step⟩

/-- What a set of hooks does for files: what happens, what it ends with and in which state. -/
structure Hooks.Runs (hooks : Hooks (StateM σ)) (stage : HookStage) (files : List OutputFile)
    (s : σ) (events : List DebugEvent) (result : Except PipelineFault Unit) (s' : σ) : Prop where
  run : (hooks.run stage files).run.run s = (result, s')
  ends : ∃ ends, events = files.map (.began stage) ++ ends ∧
    Ends hooks.MayEnd stage files ends (result.map fun _ => [])

/-- What a set of hooks does, and that telling it changes nothing. -/
lemma exists_runs (hooks : Hooks (StateM σ)) (stage : HookStage) (files : List OutputFile) (s : σ) :
    ∃ events result s', hooks.Runs stage files s events result s' ∧
      (∀ before, performed ((hooks.watched stage).run stage files) before s =
        ((result, before ++ events), s')) ∧
      ∀ {τ : Type} (view : σ → τ), hooks.Spares view → view s' = view s := by
  obtain ⟨begun, s₁, same, bound, plain, watched, view⟩ := exists_begun hooks stage files s
  obtain ⟨ends, result, s', spec, plain', watched', view'⟩ :=
    @Begun.rounds_ends _ _ stage _ _ bound Begun.delay_lt_roundCount s₁
  rw [same] at spec
  refine ⟨_, result, s', ⟨?_, ends, rfl, spec⟩, fun before => ?_, fun seen spares => ?_⟩
  · have lifted : (ExceptT.lift (hooks.begin files) : ExceptT PipelineFault _ _).run.run s =
        (.ok begun.pending, s₁) := by
      rw [ExceptT.run_lift, StateT.run_map, plain]
      rfl
    unfold Hooks.run
    rw [run_bind_ok lifted, Begun.roundCount_pending]
    exact plain'
  · unfold Hooks.run
    rw [performed_bind_ok (performed_lift (watched before)), Begun.roundCount_watched,
      ← List.append_assoc]
    exact watched' _
  · obtain ⟨later, begin⟩ := view seen spares
    exact (view' seen later).trans begin

/-! ## The phases of a run -/

variable {p : Pipeline (StateM σ)} {onInput onOutput : Hooks (StateM σ)}

/-- The phases of a run with hooks over a batch: what happens in it from a state on, what it ends
with and in which state. -/
inductive Phases (p : Pipeline (StateM σ)) (onInput onOutput : Hooks (StateM σ))
    (batch : List OutputFile) (s : σ) :
    List DebugEvent → Except PipelineFault (List OutputFile) → σ → Prop where
  | inputFails {input : List DebugEvent} {fault : PipelineFault} {s' : σ} :
    onInput.Runs .input batch s input (.error fault) s' →
    Phases p onInput onOutput batch s input (.error fault) s'
  | runFails {input : List DebugEvent} {calls : List EngineCall} {fault : PipelineFault}
    {s₁ s' : σ} : onInput.Runs .input batch s input (.ok ()) s₁ →
    performed (p.recorded.run batch) [] s₁ = ((.error fault, calls), s') →
    Phases p onInput onOutput batch s (input ++ calls.map .called) (.error fault) s'
  | outputFails {input output : List DebugEvent} {calls : List EngineCall} {out : List OutputFile}
    {fault : PipelineFault} {s₁ s₂ s' : σ} : onInput.Runs .input batch s input (.ok ()) s₁ →
    performed (p.recorded.run batch) [] s₁ = ((.ok out, calls), s₂) →
    onOutput.Runs .output out s₂ output (.error fault) s' →
    Phases p onInput onOutput batch s (input ++ calls.map .called ++ output) (.error fault) s'
  | succeeds {input output : List DebugEvent} {calls : List EngineCall} {out : List OutputFile}
    {s₁ s₂ s' : σ} : onInput.Runs .input batch s input (.ok ()) s₁ →
    performed (p.recorded.run batch) [] s₁ = ((.ok out, calls), s₂) →
    onOutput.Runs .output out s₂ output (.ok ()) s' →
    Phases p onInput onOutput batch s (input ++ calls.map .called ++ output) (.ok out) s'

/-- An engine sees only so much of a state: where that is the same, it answers the same. -/
def Engine.SeesOnly {τ : Type} (engine : Engine (StateM σ)) (view : σ → τ) : Prop :=
  ∀ code options s t, view s = view t →
    ((engine code options).run s).1 = ((engine code options).run t).1 ∧
      view ((engine code options).run s).2 = view ((engine code options).run t).2

/-- Files are handled in the same way from states that look the same to the engine. -/
lemma Handles.of_view {τ : Type} {view : σ → τ} (sees : p.engine.SeesOnly view)
    {batch files : List OutputFile} {calls : List EngineCall}
    {result : Except PipelineFault (List OutputFile)} {s s' t : σ}
    (h : Handles p batch s files calls result s') (same : view s = view t) :
    ∃ t', Handles p batch t files calls result t' := by
  induction h generalizing t with
  | done => exact ⟨t, .done⟩
  | @script s s₁ s₂ file files found output calls result kind parsed answered _ ih =>
    obtain ⟨answer, after⟩ := sees file.text (p.optionsFor file found) s t same
    rw [answered] at answer after
    rcases e : (p.engine file.text (p.optionsFor file found)).run t with ⟨answer', t₁⟩
    rw [e] at answer after
    obtain rfl : answer' = .ok output := answer.symm
    obtain ⟨t', handled⟩ := ih after
    exact ⟨t', .script kind parsed e handled⟩
  | unreadable kind unread => exact ⟨t, .unreadable kind unread⟩
  | @refused s s₁ file files found cause kind parsed refused =>
    have answer := (sees file.text (p.optionsFor file found) s t same).1
    rcases e : (p.engine file.text (p.optionsFor file found)).run t with ⟨answer', t₁⟩
    rw [refused, e] at answer
    obtain rfl : answer' = .error cause := answer.symm
    exact ⟨t₁, .refused kind parsed e⟩
  | sourceMap kind _ ih =>
    obtain ⟨t', handled⟩ := ih same
    exact ⟨t', .sourceMap kind handled⟩
  | other kind _ ih =>
    obtain ⟨t', handled⟩ := ih same
    exact ⟨t', .other kind handled⟩

/-- A recorded run does the same from states that look the same to the engine. -/
lemma performed_of_view {τ : Type} {view : σ → τ} (sees : p.engine.SeesOnly view) {s t : σ}
    (same : view s = view t) (batch : List OutputFile) :
    (performed (p.recorded.run batch) [] s).1 = (performed (p.recorded.run batch) [] t).1 := by
  obtain ⟨calls, result, s', handled, run⟩ := @handles_recorded _ p batch s
  obtain ⟨t', handled'⟩ := handled.of_view sees same
  rw [run, handled'.performed_recorded]

/-- A run with hooks goes through its phases, and telling what happens in them changes nothing. If
the engine only sees what the hooks before the run leave as it is, then its calls and its result are
those of a run without any hooks. -/
theorem runDebug_phases (p : Pipeline (StateM σ)) (onInput onOutput : Hooks (StateM σ))
    (batch : List OutputFile) (s : σ) :
    ∃ events result s',
      performed (p.watchDebug onInput onOutput batch) [] s = ((result, events), s') ∧
      (p.runDebug onInput onOutput batch).run.run s = (result, s') ∧
      Phases p onInput onOutput batch s events result s' ∧
      ∀ {τ : Type} (view : σ → τ), p.engine.SeesOnly view → onInput.Spares view →
        (performed (p.recorded.run batch) [] ((onInput.run .input batch).run.run s).2).1 =
          (performed (p.recorded.run batch) [] s).1 := by
  obtain ⟨input, began, s₁, inputs, watched, spared⟩ := exists_runs onInput .input batch s
  have seen : ∀ {τ : Type} (view : σ → τ), p.engine.SeesOnly view → onInput.Spares view →
      (performed (p.recorded.run batch) [] ((onInput.run .input batch).run.run s).2).1 =
        (performed (p.recorded.run batch) [] s).1 := by
    intro τ view sees spares
    rw [inputs.run]
    exact performed_of_view sees (spared view spares) batch
  have first := watched []
  rw [List.nil_append] at first
  cases began with
  | error fault =>
    exact ⟨_, _, _, performed_bind_error first, run_bind_error inputs.run, .inputFails inputs, seen⟩
  | ok =>
    obtain ⟨calls, ran, s₂, handled, noting⟩ := @handles_noting _ p batch s₁
    have recorded := handled.performed_recorded
    have run := run_eq_of_performed recorded
    have second := noting .called input
    cases ran with
    | error fault =>
      refine ⟨_, _, _, ?_, ?_, .runFails inputs recorded, seen⟩
      · exact (performed_bind_ok first).trans (performed_bind_error second)
      · exact (run_bind_ok inputs.run).trans (run_bind_error run)
    | ok out =>
      obtain ⟨output, last, s', outputs, watched', -⟩ := exists_runs onOutput .output out s₂
      have third := watched' (input ++ calls.map .called)
      cases last with
      | error fault =>
        refine ⟨_, _, _, ?_, ?_, .outputFails inputs recorded outputs, seen⟩
        · exact (performed_bind_ok first).trans
            ((performed_bind_ok second).trans (performed_bind_error third))
        · exact (run_bind_ok inputs.run).trans
            ((run_bind_ok run).trans (run_bind_error outputs.run))
      | ok =>
        refine ⟨_, _, _, ?_, ?_, .succeeds inputs recorded outputs, seen⟩
        · exact (performed_bind_ok first).trans
            ((performed_bind_ok second).trans (performed_bind_ok third))
        · exact (run_bind_ok inputs.run).trans
            ((run_bind_ok run).trans (run_bind_ok outputs.run))

/-- Hooks with delays, of which one fails after the run, around an engine with a state. -/
theorem runDebug_phases_counting :
    let p : Pipeline (StateM Nat) := .new countingEngine {}
    let onInput : Hooks (StateM Nat) := fun file => pure ⟨file.text.length, pure ()⟩
    let onOutput : Hooks (StateM Nat) := fun file =>
      pure ⟨file.name.length, if file.kind == .sourceMap then throw ⟨"refused", []⟩ else pure ()⟩
    let batch : List OutputFile :=
      [⟨"a.js", "f()", false⟩, ⟨"a.js.map", Document.toJson { sources := ["a.ts"] }, true⟩,
        ⟨"b.js", "g()", false⟩]
    let fault : PipelineFault := .hook .output "a.js.map" ⟨"refused", []⟩
    ∃ events, performed (p.watchDebug onInput onOutput batch) [] 0 = ((.error fault, events), 2) ∧
      Phases p onInput onOutput batch 0 events (.error fault) 2 ∧
      (performed (p.recorded.run batch) [] ((onInput.run .input batch).run.run 0).2).1 =
        (performed (p.recorded.run batch) [] 0).1 := by
  intro p onInput onOutput batch fault
  have run : (p.runDebug onInput onOutput batch).run.run 0 = (.error fault, 2) := by
    change @Eq (Except PipelineFault (List OutputFile) × Nat) _ _
    decide +kernel
  have sees : p.engine.SeesOnly (id : Nat → Nat) := by
    rintro code options s _ rfl
    exact ⟨rfl, rfl⟩
  have spares : onInput.Spares (id : Nat → Nat) := fun file s => ⟨rfl, fun t => rfl⟩
  obtain ⟨events, result, s', watched, plain, phases, same⟩ :=
    runDebug_phases p onInput onOutput batch 0
  obtain ⟨rfl, rfl⟩ := Prod.mk.inj (plain.symm.trans run)
  exact ⟨events, watched, phases, same id sees spares⟩

end ScriptMaps
