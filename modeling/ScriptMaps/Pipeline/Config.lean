import ScriptMaps.Transform.Options

/-!
# Configuration

What a pipeline is set up with: the identifiers of its plugins, where they are looked up, and the
options that each file starts from.
-/

namespace ScriptMaps

open ScriptMaps.Json

/-- The settings of a pipeline. -/
structure PipelineConfig where
  plugins : List String := []
  /-- Whether plugins are looked up on the host. -/
  useHostResolution : Bool := false
  options : TransformOptions := {}
  deriving Inhabited

namespace PipelineConfig

/-- The keys of settings, in the order they are written. -/
def keys : List String := ["plugins", "useHostResolution", "options"]

/-- Settings as JSON. -/
def write (c : PipelineConfig) : List Char :=
  writeObject
    [writeMember "plugins" (writeList (c.plugins.map writeString)),
      writeMember "useHostResolution" (writeBool c.useHostResolution),
      writeMember "options" c.options.write]

/-- Settings as a JSON text. -/
def toJson (c : PipelineConfig) : String := String.ofList c.write

/-- Reads the value under a key. -/
def field (depth : Nat) (c : PipelineConfig) (key : String) : Reader PipelineConfig := do
  match key with
  | "plugins" => return { c with plugins := ← Reader.listOf depth Reader.text }
  | "useHostResolution" => return { c with useHostResolution := ← Reader.flag }
  | "options" => return { c with options := ← TransformOptions.read depth }
  | _ => return c

/-- Reads settings, of which any may be missing. -/
def read (depth : Nat) : Reader PipelineConfig :=
  Reader.record depth "struct PipelineConfig" keys [] (field (depth - 1)) {}

/-- Reads a text as settings. -/
def parse (text : String) : Except Fault PipelineConfig := readText (read depthLimit) text

end PipelineConfig

end ScriptMaps
