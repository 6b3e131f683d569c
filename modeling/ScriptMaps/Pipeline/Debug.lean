import ScriptMaps.Pipeline.Basic

/-!
# Pipelines with hooks

Hooks run around a batch: one for every file before it, and one for every result after it. Those of
a set are all begun in the order of their files; then, round by round, each that is not done is
asked whether it is, until all are or one fails. A hook says for how many rounds it waits.
-/

namespace ScriptMaps

/-- A hook that was begun: the rounds it still waits for, and what it ends with. -/
structure Hook (m : Type → Type) where
  delay : Nat
  finish : ExceptT Report m Unit

/-- The hooks of a set: how one is begun for a file. -/
def Hooks (m : Type → Type) : Type := OutputFile → m (Hook m)

namespace Hooks

variable {m : Type → Type} [Monad m]

/-- A hook for each file. -/
def begin (hooks : Hooks m) (files : List OutputFile) : m (List (String × Hook m)) :=
  files.mapM fun file => do return (file.name, ← hooks file)

/-- One round: hooks that wait wait one round less, all others end. The rest is not done yet. -/
def round (stage : HookStage) :
    List (String × Hook m) → ExceptT PipelineFault m (List (String × Hook m))
  | [] => return []
  | (name, hook) :: rest => do
    match hook.delay with
    | 0 =>
      hook.finish.adapt (.hook stage name)
      round stage rest
    | delay + 1 => return (name, ⟨delay, hook.finish⟩) :: (← round stage rest)

/-- A number of rounds. -/
def rounds (stage : HookStage) : Nat → List (String × Hook m) → ExceptT PipelineFault m Unit
  | 0, _ => return ()
  | n + 1, pending => do rounds stage n (← round stage pending)

/-- The number of rounds after which hooks are done. -/
def roundCount (pending : List (String × Hook m)) : Nat :=
  pending.foldl (fun n h => max n (h.2.delay + 1)) 0

/-- Runs the hooks of a set. -/
def run (hooks : Hooks m) (stage : HookStage) (files : List OutputFile) :
    ExceptT PipelineFault m Unit := do
  let pending ← ExceptT.lift (hooks.begin files)
  rounds stage (roundCount pending) pending

end Hooks

/-- Transforms a batch with hooks before and after. The result is that of the transformation. -/
def Pipeline.runDebug {m : Type → Type} [Monad m] (p : Pipeline m) (onInput onOutput : Hooks m)
    (batch : List OutputFile) : ExceptT PipelineFault m (List OutputFile) := do
  onInput.run .input batch
  let results ← p.run batch
  onOutput.run .output results
  return results

end ScriptMaps
