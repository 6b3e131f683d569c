import ScriptMaps.Proofs.Pipeline.Debugging

/-!
# The order in which hooks end

When each hook of a set waits for a known number of rounds and has a known outcome, all that happens
is known as well. At the beginning of a round the hooks that are not done are those with no smaller
delay, in the order of their files (`Awaits`), and the round ends the ones that are due
(`round_due`). So hooks end by their delays, and where these are the same by their positions, up to
the first that fails (`hooks_schedule`).
-/

namespace ScriptMaps

variable {σ : Type}

/-- What a hook does: it waits for some rounds, and then it ends with an outcome. -/
structure Plan where
  delay : Nat
  outcome : Except Report Unit

/-- The hook of the file at a position of a list, and what it does. -/
structure Task where
  position : Nat
  file : OutputFile
  plan : Plan

namespace Task

/-- The tasks of files with plans, numbered from a position on. -/
def numbered (first : Nat) (plans : List (OutputFile × Plan)) : List Task :=
  (plans.zipIdx first).map fun ((file, plan), position) => ⟨position, file, plan⟩

/-- By delay, and where that is the same by position. -/
def Before (x y : Task) : Prop :=
  x.plan.delay < y.plan.delay ∨ x.plan.delay = y.plan.delay ∧ x.position < y.position

/-- A task ends with a failure. -/
def Fails (x : Task) : Prop := ∃ cause, x.plan.outcome = .error cause

/-- The end of a hook. -/
def ended (stage : HookStage) (x : Task) : DebugEvent := .ended stage x.file x.plan.outcome

/-- Numbering keeps the files and their plans. -/
lemma map_numbered (first : Nat) (plans : List (OutputFile × Plan)) :
    (numbered first plans).map (fun x => (x.file, x.plan)) = plans := by
  unfold numbered
  rw [List.map_map]
  exact List.zipIdx_map_fst first plans

/-- What holds of all plans holds of all tasks, and the other way round. -/
lemma forall_numbered {first : Nat} {plans : List (OutputFile × Plan)} {p : Plan → Prop} :
    (∀ x ∈ numbered first plans, p x.plan) ↔ ∀ x ∈ plans, p x.2 := by
  conv_rhs => rw [← map_numbered first plans]
  rw [List.forall_mem_map]

/-- Positions increase. -/
lemma pairwise_numbered (first : Nat) (plans : List (OutputFile × Plan)) :
    (numbered first plans).Pairwise (·.position < ·.position) := by
  unfold numbered
  rw [List.pairwise_map, ← List.pairwise_map (f := Prod.snd), List.zipIdx_map_snd]
  exact List.pairwise_lt_range'

end Task

/-- What comes of tasks that end in an order: all end if none fails; otherwise those end that come
before the first that fails, and that one, whose file is named. -/
inductive Ended (stage : HookStage) :
    List Task → List DebugEvent → Except PipelineFault Unit → Prop where
  | all {tasks : List Task} :
    (∀ x ∈ tasks, x.plan.outcome = .ok ()) →
    Ended stage tasks (tasks.map (Task.ended stage)) (.ok ())
  | upTo {before after : List Task} {x : Task} {cause : Report} :
    (∀ y ∈ before, y.plan.outcome = .ok ()) →
    x.plan.outcome = .error cause →
    Ended stage (before ++ x :: after) ((before ++ [x]).map (Task.ended stage))
      (.error (.hook stage x.file.name cause))

namespace Ended

variable {stage : HookStage} {tasks more : List Task} {ends ends' : List DebugEvent}
variable {result : Except PipelineFault Unit} {x : Task}

/-- Without tasks nothing ends. -/
lemma nil : Ended stage [] [] (.ok ()) := .all (List.forall_mem_nil _)

/-- Tasks end behind others that all end well. -/
lemma append (h : Ended stage tasks ends (.ok ())) (h' : Ended stage more ends' result) :
    Ended stage (tasks ++ more) (ends ++ ends') result := by
  cases h with
  | all each =>
    cases h' with
    | all each' =>
      rw [← List.map_append]
      exact .all (List.forall_mem_append.2 ⟨each, each'⟩)
    | upTo each' fails =>
      rw [← List.map_append, ← List.append_assoc, ← List.append_assoc]
      exact .upTo (List.forall_mem_append.2 ⟨each, each'⟩) fails

/-- After a failure no more tasks end. -/
lemma stop {fault : PipelineFault} (h : Ended stage tasks ends (.error fault)) (more : List Task) :
    Ended stage (tasks ++ more) ends (.error fault) := by
  cases h with
  | upTo each fails =>
    rw [List.append_assoc, List.cons_append]
    exact .upTo each fails

/-- A task that ends well is followed by the others. -/
lemma cons (h : Ended stage tasks ends result) (well : x.plan.outcome = .ok ()) :
    Ended stage (x :: tasks) (x.ended stage :: ends) result := by
  have first : Ended stage [x] [x.ended stage] (.ok ()) := .all (List.forall_mem_singleton.2 well)
  exact first.append h

/-- A task that fails is the last one to end. -/
lemma fails {cause : Report} (badly : x.plan.outcome = .error cause) (tasks : List Task) :
    Ended stage (x :: tasks) [x.ended stage] (.error (.hook stage x.file.name cause)) :=
  .upTo (List.forall_mem_nil _) badly

/-- All ends are told if none fails. -/
lemma eq_of_ok (h : Ended stage tasks ends (.ok ())) : ends = tasks.map (Task.ended stage) := by
  cases h with
  | all _ => rfl

/-- There is no fault exactly if no task fails. -/
lemma eq_ok_iff (h : Ended stage tasks ends result) :
    result = .ok () ↔ ∀ x ∈ tasks, x.plan.outcome = .ok () := by
  cases h with
  | all each => exact ⟨fun _ => each, fun _ => rfl⟩
  | @upTo _ _ x cause _ badly =>
    refine ⟨nofun, fun each => ?_⟩
    have well := each x (List.mem_append_right _ List.mem_cons_self)
    exact nomatch well.symm.trans badly

/-- The fault is that of the first task that fails, and the end of that is the last to be told. -/
lemma first_fails {fault : PipelineFault} (h : Ended stage tasks ends (.error fault))
    (ordered : tasks.Pairwise Task.Before) :
    ∃ x ∈ tasks, ∃ cause, x.plan.outcome = .error cause ∧
      fault = .hook stage x.file.name cause ∧ ends.getLast? = some (x.ended stage) ∧
      ∀ y ∈ tasks, y.Fails → y = x ∨ x.Before y := by
  cases h with
  | @upTo before after x cause each badly =>
    refine ⟨x, List.mem_append_right _ List.mem_cons_self, cause, badly, rfl, ?_, ?_⟩
    · rw [List.map_append, List.map_singleton, List.getLast?_concat]
    · rintro y mem ⟨cause', badly'⟩
      rcases List.mem_append.1 mem with mem | mem
      · exact nomatch (each y mem).symm.trans badly'
      · obtain ⟨_, ordered, _⟩ := List.pairwise_append.1 ordered
        rcases List.mem_cons.1 mem with rfl | mem
        · exact .inl rfl
        · exact .inr ((List.pairwise_cons.1 ordered).1 y mem)

end Ended

/-! ## The order of the ends -/

namespace Task

/-- The tasks that end in some rounds from one on, round by round. -/
def inRounds : Nat → Nat → List Task → List Task
  | 0, _, _ => []
  | n + 1, round, tasks =>
    tasks.filter (·.plan.delay = round) ++
      inRounds n (round + 1) (tasks.filter (round < ·.plan.delay))

variable {n round : Nat} {tasks : List Task} {x : Task}

/-- Tasks that do not end in a round are due in later ones. -/
lemma le_delay_of_mem_later (mem : x ∈ tasks.filter (round < ·.plan.delay)) :
    round + 1 ≤ x.plan.delay :=
  of_decide_eq_true (List.mem_filter.1 mem).2

/-- If no task is overdue and there are enough rounds then each task ends in one of them. -/
lemma perm_inRounds (from_ : ∀ x ∈ tasks, round ≤ x.plan.delay)
    (enough : ∀ x ∈ tasks, x.plan.delay < round + n) : (inRounds n round tasks).Perm tasks := by
  induction n generalizing round tasks with
  | zero =>
    have none : tasks = [] := List.eq_nil_iff_forall_not_mem.2 fun x mem =>
      absurd (enough x mem) (Nat.not_lt_of_le (from_ x mem))
    rw [none]
    exact .refl _
  | succ n ih =>
    have later : (inRounds n (round + 1) (tasks.filter (round < ·.plan.delay))).Perm
        (tasks.filter (round < ·.plan.delay)) := by
      apply ih
      · intro x mem
        exact le_delay_of_mem_later mem
      · intro x mem
        have less := enough x (List.mem_of_mem_filter mem)
        omega
    -- No task is due before this round, so those that are not due in it are due later.
    have rest : tasks.filter (round < ·.plan.delay) =
        tasks.filter fun x => !decide (x.plan.delay = round) := by
      apply List.filter_congr
      intro x mem
      have least := from_ x mem
      rw [← decide_not]
      exact decide_eq_decide.2 (by omega)
    apply (later.append_left _).trans
    rw [rest]
    exact List.filter_append_perm _ tasks

/-- Tasks end in the order of their delays and positions. -/
lemma pairwise_inRounds (ordered : tasks.Pairwise (·.position < ·.position))
    (from_ : ∀ x ∈ tasks, round ≤ x.plan.delay)
    (enough : ∀ x ∈ tasks, x.plan.delay < round + n) :
    (inRounds n round tasks).Pairwise Before := by
  induction n generalizing round tasks with
  | zero => exact .nil
  | succ n ih =>
    have from' : ∀ x ∈ tasks.filter (round < ·.plan.delay), round + 1 ≤ x.plan.delay :=
      fun x mem => le_delay_of_mem_later mem
    have enough' : ∀ x ∈ tasks.filter (round < ·.plan.delay),
        x.plan.delay < round + 1 + n := by
      intro x mem
      have less := enough x (List.mem_of_mem_filter mem)
      omega
    have due : ∀ x ∈ tasks.filter (·.plan.delay = round), x.plan.delay = round :=
      fun x mem => of_decide_eq_true (List.mem_filter.1 mem).2
    refine List.pairwise_append.2 ⟨?_, ih (ordered.filter _) from' enough', ?_⟩
    · refine (ordered.filter _).imp_of_mem ?_
      intro x y memx memy less
      exact .inr ⟨(due x memx).trans (due y memy).symm, less⟩
    · intro x memx y memy
      have later := from' y ((perm_inRounds from' enough').subset memy)
      left
      rw [due x memx]
      exact later

end Task

/-! ## Rounds -/

/-- A hook that was begun is about to do, from a round on, what is left of a task. -/
structure Awaits (round : Nat) (x : OutputFile × Hook (StateM σ)) (y : Task) : Prop where
  file : x.1 = y.file
  delay : x.2.delay + round = y.plan.delay
  outcome : ∀ s, (x.2.finish.run.run s).1 = y.plan.outcome

section Rounds

variable {stage : HookStage} {round n : Nat} {begun : Begun σ} {tasks : List Task}

/-- What is left of all delays. -/
lemma forall_delay_lt (awaits : List.Forall₂ (Awaits round) begun tasks) :
    (∀ x ∈ begun, x.2.delay < n) ↔ ∀ y ∈ tasks, y.plan.delay < n + round := by
  induction awaits with
  | nil => exact iff_of_true (List.forall_mem_nil _) (List.forall_mem_nil _)
  | cons await _ ih =>
    rw [List.forall_mem_cons, List.forall_mem_cons, ih, ← await.delay, Nat.add_lt_add_iff_right]

/-- After a round the hooks that are not done await the next. -/
lemma awaits_waiting (awaits : List.Forall₂ (Awaits round) begun tasks) :
    List.Forall₂ (Awaits (round + 1)) begun.waiting
      (tasks.filter (round < ·.plan.delay)) := by
  induction awaits with
  | nil => exact .nil
  | @cons x y begun tasks await _ ih =>
    obtain ⟨file, delay, finish⟩ := x
    have sum : delay + round = y.plan.delay := await.delay
    cases delay with
    | zero =>
      rw [List.filter_cons_of_neg (by simp; omega)]
      exact ih
    | succ delay =>
      rw [List.filter_cons_of_pos (by simp; omega)]
      refine .cons ⟨await.file, ?_, await.outcome⟩ ih
      change delay + (round + 1) = y.plan.delay
      omega

/-- A round ends the hooks that are due. -/
lemma round_due (awaits : List.Forall₂ (Awaits round) begun tasks) (s : σ) :
    ∃ ends result s', Ended stage (tasks.filter (·.plan.delay = round)) ends result ∧
      ∀ events, performed (Hooks.round stage (begun.watched stage)) events s =
        ((Except.map (fun _ => begun.waiting.watched stage) result, events ++ ends), s') := by
  induction awaits generalizing s with
  | nil =>
    refine ⟨[], .ok (), s, .nil, fun events => ?_⟩
    rw [List.append_nil]
    rfl
  | @cons x y begun tasks await _ ih =>
    obtain ⟨file, delay, finish⟩ := x
    obtain rfl : file = y.file := await.file
    have sum : delay + round = y.plan.delay := await.delay
    cases delay with
    | zero =>
      rw [List.filter_cons_of_pos (by simp; omega)]
      rcases e : finish.run.run s with ⟨outcome, s₁⟩
      have known : outcome = y.plan.outcome := by
        rw [← await.outcome s, e]
      have told :=
        @Begun.performed_finish _ stage ⟨0, finish⟩ _ _ _ e y.file (.hook stage y.file.name)
      cases outcome with
      | ok =>
        obtain ⟨ends, result, s', ended, performs⟩ := ih s₁
        refine ⟨_, result, s', ended.cons known.symm, fun events => ?_⟩
        rw [List.append_cons, Task.ended, ← known]
        exact (performed_bind_ok (told events)).trans (performs _)
      | error cause =>
        refine ⟨_, _, s₁, .fails known.symm _, fun events => ?_⟩
        rw [Task.ended, ← known]
        exact performed_bind_error (told events)
    | succ delay =>
      rw [List.filter_cons_of_neg (by simp; omega)]
      obtain ⟨ends, result, s', ended, performs⟩ := ih s
      refine ⟨ends, result, s', ended, fun events => ?_⟩
      cases result with
      | ok => exact performed_bind_ok (performs events)
      | error fault => exact performed_bind_error (performs events)

/-- In enough rounds hooks end in the order of their tasks, up to the first that fails. -/
lemma rounds_due (awaits : List.Forall₂ (Awaits round) begun tasks) (s : σ) (n : Nat) :
    ∃ ends result s', Ended stage (Task.inRounds n round tasks) ends result ∧
      ∀ events, performed (Hooks.rounds stage n (begun.watched stage)) events s =
        ((result, events ++ ends), s') := by
  induction n generalizing round begun tasks s with
  | zero =>
    refine ⟨[], .ok (), s, .nil, fun events => ?_⟩
    rw [List.append_nil]
    rfl
  | succ n ih =>
    obtain ⟨ends, result, s₁, ended, performs⟩ := round_due awaits s
    cases result with
    | ok =>
      obtain ⟨more, result, s', ended', performs'⟩ := ih (awaits_waiting awaits) s₁
      refine ⟨ends ++ more, result, s', ended.append ended', fun events => ?_⟩
      rw [← List.append_assoc]
      exact (performed_bind_ok (performs events)).trans (performs' _)
    | error fault =>
      exact ⟨ends, .error fault, s₁, ended.stop _, fun events =>
        performed_bind_error (performs events)⟩

/-- Rounds without hooks do nothing. -/
lemma performed_rounds_nil (n : Nat) (events : List DebugEvent) (s : σ) :
    performed (Hooks.rounds stage n (Begun.watched [] stage)) events s = ((.ok (), events), s) := by
  induction n with
  | zero => rfl
  | succ n ih => exact (performed_bind_ok rfl).trans ih

/-- More rounds than enough change nothing. -/
lemma performed_rounds {m : Nat} (awaits : List.Forall₂ (Awaits round) begun tasks)
    (enough : ∀ x ∈ begun, x.2.delay < n) (enough' : ∀ x ∈ begun, x.2.delay < m)
    (events : List DebugEvent) (s : σ) :
    performed (Hooks.rounds stage n (begun.watched stage)) events s =
      performed (Hooks.rounds stage m (begun.watched stage)) events s := by
  induction n generalizing round begun tasks m events s with
  | zero =>
    have none : begun = [] := List.eq_nil_iff_forall_not_mem.2 fun x mem =>
      absurd (enough x mem) (Nat.not_lt_zero _)
    rw [none, performed_rounds_nil, performed_rounds_nil]
  | succ n ih =>
    -- Either count of rounds is large enough for the hooks that are left after this one.
    cases m with
    | zero =>
      have none : begun = [] := List.eq_nil_iff_forall_not_mem.2 fun x mem =>
        absurd (enough' x mem) (Nat.not_lt_zero _)
      rw [none, performed_rounds_nil, performed_rounds_nil]
    | succ m =>
      obtain ⟨ends, result, s', _, performs⟩ := @round_due σ stage _ _ _ awaits s
      cases result with
      | ok =>
        calc performed (Hooks.rounds stage (n + 1) (begun.watched stage)) events s
          _ = performed (Hooks.rounds stage n (begun.waiting.watched stage)) (events ++ ends) s' :=
            performed_bind_ok (performs events)
          _ = performed (Hooks.rounds stage m (begun.waiting.watched stage)) (events ++ ends) s' :=
            ih (awaits_waiting awaits) (Begun.delay_lt_of_mem_waiting enough)
              (Begun.delay_lt_of_mem_waiting enough') _ _
          _ = performed (Hooks.rounds stage (m + 1) (begun.watched stage)) events s :=
            (performed_bind_ok (performs events)).symm
      | error fault =>
        exact (performed_bind_error (performs events)).trans
          (performed_bind_error (performs events)).symm

end Rounds

/-! ## A set of hooks with plans -/

namespace Hooks

/-- Hooks that are begun for files in a state do what is planned for these. -/
def Follow (hooks : Hooks (StateM σ)) (plans : List (OutputFile × Plan)) (s : σ) : Prop :=
  List.Forall₂
    (fun hook x => hook.2.delay = x.2.delay ∧
      ∀ s, (hook.2.finish.run.run s).1 = x.2.outcome)
    ((hooks.begin (plans.map (·.1))).run s).1 plans

/-- Hooks that take their plans from a list, one after the other. -/
def planned : Hooks (StateM (List Plan)) := fun _ => do
  let plan := (← get).headD ⟨0, .ok ()⟩
  modify List.tail
  return ⟨plan.delay, ExceptT.mk (pure plan.outcome)⟩

/-- There are hooks for all plans. -/
lemma follow_planned (plans : List (OutputFile × Plan)) :
    planned.Follow plans (plans.map (·.2)) := by
  induction plans with
  | nil => exact .nil
  | cons x plans ih =>
    unfold Follow
    rw [List.map_cons, begin_cons]
    exact .cons ⟨rfl, fun _ => rfl⟩ ih

/-- Hooks that are begun and then asked for a number of rounds. -/
def runFor {m : Type → Type} [Monad m] (hooks : Hooks m) (stage : HookStage)
    (files : List OutputFile) (n : Nat) : ExceptT PipelineFault m Unit := do
  let pending ← ExceptT.lift (hooks.begin files)
  rounds stage n pending

end Hooks

/-- Hooks that were begun for files with plans are about to do what the plans say. -/
lemma awaits_numbered {begun : Begun σ} {plans : List (OutputFile × Plan)}
    (files : begun.files = plans.map (·.1))
    (follow : List.Forall₂ (fun hook x => hook.2.delay = x.2.delay ∧
      ∀ s, (hook.2.finish.run.run s).1 = x.2.outcome) begun.pending plans) (first : Nat) :
    List.Forall₂ (Awaits 0) begun (Task.numbered first plans) := by
  induction plans generalizing begun first with
  | nil =>
    rw [List.map_eq_nil_iff.1 files]
    exact .nil
  | cons x plans ih =>
    cases begun with
    | nil => cases files
    | cons y begun =>
      obtain ⟨file, files⟩ := List.cons.inj files
      obtain ⟨⟨delay, outcome⟩, follow⟩ := List.forall₂_cons.1 follow
      exact .cons ⟨file, delay, outcome⟩ (ih files follow (first + 1))

/-- Hooks that do what is planned end in the order of their delays and positions, up to the first
that fails, if they are asked often enough. -/
lemma Hooks.Follow.exists_ended {hooks : Hooks (StateM σ)} {plans : List (OutputFile × Plan)}
    {s : σ} (follow : hooks.Follow plans s) (stage : HookStage) :
    ∃ order ends result s', order.Perm (Task.numbered 0 plans) ∧ order.Pairwise Task.Before ∧
      Ended stage order ends result ∧
      performed ((hooks.watched stage).run stage (plans.map (·.1))) [] s =
        ((result, (plans.map (·.1)).map (.began stage) ++ ends), s') ∧
      ∀ n, (∀ x ∈ plans, x.2.delay < n) →
        performed ((hooks.watched stage).runFor stage (plans.map (·.1)) n) [] s =
          ((result, (plans.map (·.1)).map (.began stage) ++ ends), s') := by
  obtain ⟨begun, s₁, files, -, begins, tells, -⟩ :=
    exists_begun hooks stage (plans.map (·.1)) s
  unfold Hooks.Follow at follow
  rw [begins] at follow
  have awaits := awaits_numbered files follow 0
  have enough : ∀ x ∈ Task.numbered 0 plans, x.plan.delay < 0 + begun.roundCount := by
    rw [Nat.zero_add]
    exact (forall_delay_lt awaits).1 Begun.delay_lt_roundCount
  have least : ∀ x ∈ Task.numbered 0 plans, 0 ≤ x.plan.delay := fun x _ => Nat.zero_le _
  have ordered := Task.pairwise_inRounds (Task.pairwise_numbered 0 plans) least enough
  obtain ⟨ends, result, s', ended, performs⟩ :=
    @rounds_due _ stage _ _ _ awaits s₁ begun.roundCount
  have began := performed_lift (ε := PipelineFault) (tells [])
  refine ⟨_, ends, result, s', Task.perm_inRounds least enough, ordered, ended, ?_, ?_⟩
  · unfold Hooks.run
    rw [performed_bind_ok began, Begun.roundCount_watched]
    exact performs _
  · intro n delays
    have more : ∀ x ∈ begun, x.2.delay < n :=
      (forall_delay_lt awaits).2 ((Task.forall_numbered (p := (·.delay < n))).2 delays)
    calc performed ((hooks.watched stage).runFor stage (plans.map (·.1)) n) [] s
      _ = performed (Hooks.rounds stage n (begun.watched stage)) _ s₁ := performed_bind_ok began
      _ = performed (Hooks.rounds stage begun.roundCount (begun.watched stage)) _ s₁ :=
        performed_rounds awaits more Begun.delay_lt_roundCount _ s₁
      _ = _ := performs _

/-- Whatever is planned for files, there are hooks that do it. And whenever the hooks of files do
what is planned, they are begun in the order of the files, and then end in the order of their delays
and positions, up to the first that fails; as many rounds as the greatest delay asks for are enough.
If none fails then each has ended exactly once, and otherwise the fault is that of the one that
comes first in this order. -/
theorem hooks_schedule (plans : List (OutputFile × Plan)) (stage : HookStage) :
    (∃ (σ : Type) (hooks : Hooks (StateM σ)) (s : σ), hooks.Follow plans s) ∧
    ∀ {σ : Type} (hooks : Hooks (StateM σ)) (s : σ), hooks.Follow plans s →
    ∃ (order : List Task) (ends : List DebugEvent) (result : Except PipelineFault Unit) (s' : σ),
      order.Perm (Task.numbered 0 plans) ∧ order.Pairwise Task.Before ∧
      Ended stage order ends result ∧
      (hooks.run stage (plans.map (·.1))).run.run s = (result, s') ∧
      performed ((hooks.watched stage).run stage (plans.map (·.1))) [] s =
        ((result, (plans.map (·.1)).map (.began stage) ++ ends), s') ∧
      (∀ n, (∀ x ∈ plans, x.2.delay < n) →
        performed ((hooks.watched stage).runFor stage (plans.map (·.1)) n) [] s =
          ((result, (plans.map (·.1)).map (.began stage) ++ ends), s')) ∧
      (result = .ok () ↔ ∀ x ∈ plans, x.2.outcome = .ok ()) ∧
      (result = .ok () → ends = order.map (Task.ended stage)) ∧
      ∀ fault, result = .error fault →
        ∃ x ∈ Task.numbered 0 plans, ∃ cause, x.plan.outcome = .error cause ∧
          fault = .hook stage x.file.name cause ∧ ends.getLast? = some (x.ended stage) ∧
          ∀ y ∈ Task.numbered 0 plans, y.Fails → y = x ∨ x.Before y := by
  refine ⟨⟨_, _, _, Hooks.follow_planned plans⟩, fun {σ} hooks s follow => ?_⟩
  obtain ⟨order, ends, result, s', perm, ordered, ended, run, longer⟩ := follow.exists_ended stage
  -- Hooks that are not watched do the same.
  obtain ⟨events, result', s'', runs, told, -⟩ := exists_runs hooks stage (plans.map (·.1)) s
  obtain ⟨same, rfl⟩ := Prod.mk.inj ((told []).symm.trans run)
  obtain ⟨rfl, -⟩ := Prod.mk.inj same
  refine ⟨order, ends, result', s'', perm, ordered, ended, runs.run, run, longer, ?_, ?_, ?_⟩
  · have all : (∀ x ∈ plans, x.2.outcome = .ok ()) ↔
        ∀ x ∈ Task.numbered 0 plans, x.plan.outcome = .ok () :=
      (Task.forall_numbered (p := (·.outcome = .ok ()))).symm
    rw [ended.eq_ok_iff, all]
    exact ⟨fun each x mem => each x (perm.symm.subset mem),
      fun each x mem => each x (perm.subset mem)⟩
  · rintro rfl
    exact ended.eq_of_ok
  · rintro fault rfl
    obtain ⟨x, mem, cause, badly, fault_eq, last, first⟩ := ended.first_fails ordered
    exact ⟨x, perm.subset mem, cause, badly, fault_eq, last,
      fun y mem => first y (perm.symm.subset mem)⟩

/-- Five hooks, of which three have the same delay and two have files with the same name. Two fail,
and the one in front is named, though a hook in front of it is not done. -/
theorem hooks_schedule_ties :
    let file (name : String) : OutputFile := ⟨name, "", false⟩
    let fault (message : String) : Except Report Unit := .error ⟨message, []⟩
    let plans : List (OutputFile × Plan) :=
      [(file "a.js", ⟨2, .ok ()⟩), (file "b.js", ⟨1, fault "first"⟩), (file "c.js", ⟨0, .ok ()⟩),
        (file "a.js", ⟨1, fault "second"⟩), (file "d.js", ⟨1, .ok ()⟩)]
    let named : PipelineFault := .hook .input "b.js" ⟨"first", []⟩
    Hooks.planned.Follow plans (plans.map (·.2)) ∧
    ∃ order ends s', order.Perm (Task.numbered 0 plans) ∧ order.Pairwise Task.Before ∧
      Ended .input order ends (.error named) ∧
      performed ((Hooks.planned.watched .input).run .input (plans.map (·.1))) []
        (plans.map (·.2)) =
        ((.error named, (plans.map (·.1)).map (.began .input) ++ ends), s') := by
  intro file fault plans named
  have follow := Hooks.follow_planned plans
  have run : ((Hooks.planned.run .input (plans.map (·.1))).run.run (plans.map (·.2))).1 =
      .error named := by decide +kernel
  obtain ⟨order, ends, result, s', perm, ordered, ended, plain, told, _⟩ :=
    (hooks_schedule plans .input).2 Hooks.planned _ follow
  rw [plain] at run
  obtain rfl : result = .error named := run
  exact ⟨follow, order, ends, s', perm, ordered, ended, told⟩

end ScriptMaps
