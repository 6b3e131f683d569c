import ScriptMaps.Json.Fault
import ScriptMaps.Plugins.Resolver
import ScriptMaps.Transform.Engine

/-!
# Faults of pipelines

Everything that can stop a batch or keep a pipeline from being built. A fault is reported with what
led to it, the nearest cause first.
-/

namespace ScriptMaps

/-- A message and the messages of what led to it. -/
structure Report where
  message : String
  causes : List String := []
  deriving Repr, DecidableEq, Inhabited

/-- When a hook runs: before the batch for its files, or after it for the results. -/
inductive HookStage where
  | input
  | output
  deriving Repr, DecidableEq, Inhabited

/-- What a stage is called. -/
def HookStage.name : HookStage → String
  | .input => "input"
  | .output => "output"

/-- Why a pipeline stops. -/
inductive PipelineFault where
  /-- The text of a map is no map. -/
  | mapParse (name : String) (cause : Json.Fault)
  /-- The engine refuses a file. -/
  | transform (name : String) (cause : EngineFault)
  /-- A plugin is not found. -/
  | resolve (cause : ResolveFault)
  /-- A hook fails for a file. -/
  | hook (stage : HookStage) (name : String) (cause : Report)
  /-- The settings cannot be read. -/
  | configParse (cause : Json.Fault)
  deriving Repr, DecidableEq, Inhabited

namespace PipelineFault

/-- The wording of a fault. -/
def message : PipelineFault → String
  | mapParse name _ => "failed to parse source map " ++ name
  | transform name _ => "failed to transform " ++ name
  | resolve cause => cause.message
  | hook stage name _ => stage.name ++ " hook failed for " ++ name
  | configParse _ => "invalid config"

/-- What led to a fault. -/
def causes : PipelineFault → List String
  | mapParse _ cause | configParse cause => [cause.message]
  | transform _ cause => cause.message :: cause.causes
  | resolve _ => []
  | hook _ _ cause => cause.message :: cause.causes

/-- How a fault is reported. -/
def report (f : PipelineFault) : Report := ⟨f.message, f.causes⟩

end PipelineFault

end ScriptMaps
