import ScriptMaps.Pipeline.Basic
import Mathlib.Control.Lawful

/-!
# Recorded runs

The calls that a pipeline makes are seen by giving it an engine that writes them down. Recording
changes nothing else: without the list of calls, a recorded run is the run itself
(`output_pass`). A pass is a recorded run; in passes one after the other, each is over what the one
before put out.
-/

namespace ScriptMaps

/-- A call of an engine: what it was given, and what it answered. -/
structure EngineCall where
  code : String
  options : TransformOptions
  answer : Except EngineFault TransformOutput

/-- What a recorded run did: the calls of the engine, in order, and the files it put out. -/
structure Pass where
  calls : List EngineCall
  output : List OutputFile

section Definitions

variable {m : Type → Type} [Monad m]

/-- An engine that takes a note of each of its calls. -/
def Engine.noting {ω : Type} (note : EngineCall → ω) (engine : Engine m) :
    Engine (StateT (List ω) m) :=
  fun code options => ExceptT.mk do
    let answer ← (engine code options).run
    modify (· ++ [note ⟨code, options, answer⟩])
    return answer

/-- An engine that writes down its calls: the note of a call is the call. -/
def Engine.recorded (engine : Engine m) : Engine (StateT (List EngineCall) m) :=
  engine.noting id

namespace Pipeline

/-- A pipeline whose engine takes a note of each of its calls. -/
def noting {ω : Type} (note : EngineCall → ω) (p : Pipeline m) : Pipeline (StateT (List ω) m) :=
  ⟨p.engine.noting note, p.options⟩

/-- A pipeline whose engine writes down its calls. -/
def recorded (p : Pipeline m) : Pipeline (StateT (List EngineCall) m) := p.noting id

/-- A recorded run over a batch. -/
def pass (p : Pipeline m) (batch : List OutputFile) : ExceptT PipelineFault m Pass :=
  ExceptT.mk do
    let (result, calls) ← (p.recorded.run batch).run.run []
    return result.map (⟨calls, ·⟩)

/-- Passes one after the other. -/
def passes (p : Pipeline m) : Nat → List OutputFile → ExceptT PipelineFault m (List Pass)
  | 0, _ => return []
  | n + 1, batch => do
    let first ← p.pass batch
    return first :: (← p.passes n first.output)

end Pipeline

end Definitions

/-! ## Forgetting the calls -/

section Forgetting

variable {m : Type → Type} [Monad m] [LawfulMonad m] {ε ε' α β : Type}

/-- A computation that records is another one if what it records is forgotten. -/
def Forgets (x : ExceptT ε (StateT (List EngineCall) m) α) (y : ExceptT ε m α) : Prop :=
  ∀ calls, Prod.fst <$> x.run.run calls = y.run

/-- A result records nothing. -/
lemma Forgets.pure (a : α) :
    Forgets (Pure.pure a : ExceptT ε (StateT (List EngineCall) m) α) (Pure.pure a) := by
  intro calls
  simp

/-- Computations that record follow each other like those they are. -/
lemma Forgets.bind {x : ExceptT ε (StateT (List EngineCall) m) α} {y : ExceptT ε m α}
    {f : α → ExceptT ε (StateT (List EngineCall) m) β} {g : α → ExceptT ε m β}
    (h : Forgets x y) (next : ∀ a, Forgets (f a) (g a)) : Forgets (x >>= f) (y >>= g) := by
  intro calls
  rw [ExceptT.run_bind, ExceptT.run_bind, ← h calls]
  simp only [StateT.run_bind, map_bind, bind_map_left]
  congr 1
  funext r
  cases r.1 with
  | ok a => exact next a r.2
  | error e => simp

/-- What a fault is turned into does not matter for what is recorded. -/
lemma Forgets.adapt {x : ExceptT ε (StateT (List EngineCall) m) α} {y : ExceptT ε m α}
    (h : Forgets x y) (f : ε → ε') : Forgets (x.adapt f) (y.adapt f) := by
  intro calls
  rw [ExceptT.run_adapt, ExceptT.run_adapt, ← h calls, StateT.run_map, Functor.map_map,
    Functor.map_map]

/-- What has been decided before records nothing. -/
lemma Forgets.lift (a : Except ε α) :
    Forgets (liftM a : ExceptT ε (StateT (List EngineCall) m) α) (liftM a) := by
  intro calls
  exact map_pure _ _

/-- An engine that records its calls is the engine itself. -/
lemma forgets_recorded (engine : Engine m) (code : String) (options : TransformOptions) :
    Forgets (engine.recorded code options) (engine code options) := by
  intro calls
  simp [Engine.recorded, Engine.noting]

/-- A list is gone through with computations that record like with those they are. -/
lemma Forgets.mapM {f : α → ExceptT ε (StateT (List EngineCall) m) β} {g : α → ExceptT ε m β}
    (each : ∀ a, Forgets (f a) (g a)) (as : List α) : Forgets (as.mapM f) (as.mapM g) := by
  induction as with
  | nil => exact Forgets.pure []
  | cons a as ih =>
    rw [List.mapM_cons, List.mapM_cons]
    exact (each a).bind fun b => ih.bind fun bs => Forgets.pure (b :: bs)

/-- A recorded run is the run itself. -/
lemma forgets_run (p : Pipeline m) (batch : List OutputFile) :
    Forgets (p.recorded.run batch) (p.run batch) := by
  have each (file : OutputFile) :
      Forgets (p.recorded.fileResults batch file) (p.fileResults batch file) := by
    unfold Pipeline.fileResults
    split
    case h_1 =>
      refine (Forgets.lift (parsedMap file batch)).bind fun found => ?_
      exact ((forgets_recorded p.engine _ _).adapt _).bind fun output => Forgets.pure _
    case h_2 => exact Forgets.pure []
    case h_3 => exact Forgets.pure [file]
  exact (Forgets.mapM each batch).bind fun blocks => Forgets.pure blocks.flatten

/-- A pass puts out what a run does. -/
theorem Pipeline.output_pass (p : Pipeline m) (batch : List OutputFile) :
    Pass.output <$> p.pass batch = p.run batch := by
  refine ExceptT.ext ?_
  rw [← forgets_run p batch [], ExceptT.run_map]
  unfold Pipeline.pass
  simp only [ExceptT.run_mk, bind_pure_comp, Functor.map_map]
  refine map_congr fun r => ?_
  cases r.1 <;> rfl

end Forgetting

end ScriptMaps
