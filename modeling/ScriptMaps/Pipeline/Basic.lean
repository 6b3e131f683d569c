import ScriptMaps.Files.OutputFile
import ScriptMaps.Pipeline.Config
import ScriptMaps.Pipeline.Fault
import ScriptMaps.Transform.Script

/-!
# Pipelines

A pipeline transforms the scripts of a batch of files and keeps their maps in step. A script's map
is dropped from its place and, if the engine made a new one, put right after the script, which then
ends with a reference to it; all other files are passed on. The first fault stops the batch.
-/

namespace ScriptMaps

open ScriptMaps.SourceMap (Document)

/-- An engine and the options each file starts from. -/
structure Pipeline (m : Type → Type) where
  engine : Engine m
  options : TransformOptions

/-- The options for one file and its map. Without a map, all that concerns maps is cleared. -/
def fileOptions (baseline : TransformOptions) (file : OutputFile) (map : Option Document) :
    TransformOptions :=
  { baseline with
    filename := some file.name
    filenameRelative := some file.name
    sourceMaps := map.isSome
    sourceRoot := map.bind (·.sourceRoot)
    sourceFileName := map.bind (·.sourceFileName)
    sourceMapTarget := map.bind (·.file)
    inputSourceMap := map }

/-- The comment at the end of a script that refers to its map. -/
def mapReference (name : String) : String :=
  "\n//# sourceMappingURL=" ++ FileName.mapName (FileName.basename name)

/-- The text of a transformed script. -/
def scriptText (name : String) (output : TransformOutput) : String :=
  if output.map.isSome then output.code ++ mapReference name else output.code

/-- The map of a file in a batch, parsed, and the file that holds it. -/
def parsedMap (file : OutputFile) (batch : List OutputFile) :
    Except PipelineFault (Option (OutputFile × Document)) :=
  match file.locateMap batch with
  | none => .ok none
  | some mapFile =>
    match Document.parse mapFile.text with
    | .ok map => .ok (some (mapFile, map))
    | .error cause => .error (.mapParse mapFile.name cause)

/-- The files a script becomes: the script, and its map if it had one and there is a new one. -/
def resultFiles (file : OutputFile) (mapFile : Option OutputFile) (output : TransformOutput) :
    List OutputFile :=
  let script := file.withText (scriptText file.name output)
  match mapFile, output.map with
  | some mapFile, some map => [script, mapFile.withText map.toJson]
  | _, _ => [script]

namespace Pipeline

variable {m : Type → Type} [Monad m]

/-- A pipeline with an engine. It writes the references to maps itself, so the engine drops those of
the texts; and it has no use for modules. -/
def new (engine : Engine m) (options : TransformOptions) : Pipeline m :=
  ⟨engine, { options with commentFilter := some .mapReferences, ast := false }⟩

/-- Transforms a script, whose map is looked up in a batch. -/
def transformFile (p : Pipeline m) (file : OutputFile) (batch : List OutputFile) :
    ExceptT PipelineFault m (List OutputFile) := do
  let found ← parsedMap file batch
  let options := fileOptions p.options file (found.map (·.2))
  let output ← (p.engine file.text options).adapt (.transform file.name)
  return resultFiles file (found.map (·.1)) output

/-- The files that one file of a batch becomes. -/
def fileResults (p : Pipeline m) (batch : List OutputFile) (file : OutputFile) :
    ExceptT PipelineFault m (List OutputFile) :=
  match file.kind with
  | .script => p.transformFile file batch
  | .sourceMap => return []
  | .other => return [file]

/-- Transforms a batch, file by file in its order. Maps are looked up in the batch as it was given.
-/
def run (p : Pipeline m) (batch : List OutputFile) : ExceptT PipelineFault m (List OutputFile) :=
  return (← batch.mapM (p.fileResults batch)).flatten

end Pipeline

/-! ## Configured pipelines -/

/-- The plugins and options of a pipeline of scripts. -/
structure ScriptPipeline where
  plugins : List Plugin
  options : TransformOptions
  deriving Inhabited

namespace ScriptPipeline

/-- The plugins and options that a configuration asks for. Plugins may be looked up on a host, from
a directory. -/
def ofConfig {m : Type → Type} [Monad m] (config : PipelineConfig) (host : Resolver m)
    (root : String) : ExceptT PipelineFault m ScriptPipeline := do
  let loader : PluginLoader m := ⟨config.useHostResolution, root, host⟩
  let plugins ← (loader.loadAll config.plugins).adapt .resolve
  return ⟨plugins, config.options⟩

/-- The pipeline itself. -/
def pipeline {m : Type → Type} [Monad m] (s : ScriptPipeline) : Pipeline m :=
  .new (scriptEngine s.plugins) s.options

end ScriptPipeline

end ScriptMaps
