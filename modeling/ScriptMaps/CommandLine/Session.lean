import ScriptMaps.CommandLine.Arguments
import ScriptMaps.CommandLine.Files

/-!
# Sessions

A session carries out a command: it writes lines to its two outputs, and it may stop with a report,
which is written last.
-/

namespace ScriptMaps.CommandLine

/-- What a session has written. -/
structure Output where
  stdout : List String := []
  stderr : List String := []
  deriving Repr, DecidableEq, Inhabited

/-- A step of a session. -/
abbrev Session (m : Type → Type) := ExceptT Report (StateT Output m)

/-- What comes of a session. -/
structure Outcome where
  exitCode : Nat
  output : Output
  deriving Repr, DecidableEq, Inhabited

/-! ## Reports -/

/-- A text behind a margin that differs in its first line. -/
def indented (first others text : String) : List String :=
  match text.splitOn "\n" with
  | [] => [first]
  | line :: lines => (first ++ line) :: lines.map (others ++ ·)

/-- The lines of causes with their numbers. -/
def numbered (number : Nat) : List String → List String
  | [] => []
  | cause :: causes =>
    let digits := toString number
    let margin := String.ofList (List.replicate (5 - digits.length) ' ')
    indented (margin ++ digits ++ ": ") "       " cause ++ numbered (number + 1) causes

/-- The lines of what led to a fault. Several causes are numbered. -/
def causeLines : List String → List String
  | [] => []
  | [cause] => "" :: "Caused by:" :: indented "    " "    " cause
  | causes => "" :: "Caused by:" :: numbered 0 causes

/-- The lines of a report. -/
def reportLines (r : Report) : List String :=
  ("Error: " ++ r.message).splitOn "\n" ++ causeLines r.causes

/-! ## Steps -/

variable {m : Type → Type} [Monad m]

namespace Session

/-- Writes to the standard output. -/
def print (text : String) : Session m Unit :=
  modify fun o => { o with stdout := o.stdout ++ text.splitOn "\n" }

/-- Writes to the standard error output. -/
def complain (text : String) : Session m Unit :=
  modify fun o => { o with stderr := o.stderr ++ text.splitOn "\n" }

/-- A step that writes nothing. -/
def quietly {α : Type} (p : ExceptT Report m α) : Session m α :=
  ExceptT.mk (StateT.lift p.run)

/-- A step of a pipeline. -/
def ofPipeline {α : Type} (p : ExceptT PipelineFault m α) : Session m α :=
  quietly (p.adapt (·.report))

/-- What comes of a session from its beginning. -/
def outcome (s : Session m Unit) : m Outcome := do
  let (result, output) ← s.run.run {}
  match result with
  | .ok () => return ⟨0, output⟩
  | .error r => return ⟨1, { output with stderr := output.stderr ++ reportLines r }⟩

end Session

/-! ## Commands -/

/-- The settings in a file, or those that hold without one. -/
def readConfig (fs : FileSystem m) (path : Option String) : ExceptT Report m PipelineConfig := do
  match path with
  | none => return {}
  | some path =>
    let text ← (fs.readText path).adapt (·.reportWhile ("failed to read config " ++ path))
    match PipelineConfig.parse text with
    | .ok config => return config
    | .error cause => throw (PipelineFault.configParse cause).report

/-- Transforms a batch, with everything dumped below a directory if one is given. -/
def transformBatch (fs : FileSystem m) (p : Pipeline m) (debugDir : Option String)
    (batch : List OutputFile) : ExceptT PipelineFault m (List OutputFile) :=
  match debugDir with
  | none => p.run batch
  | some dir =>
    p.runDebug (dumping fs (Path.join dir "input")) (dumping fs (Path.join dir "output")) batch

/-- What is printed of a result that is not written. -/
def summary (f : OutputFile) : String :=
  f.name ++ "\t" ++ toString f.text.utf8ByteSize ++ " bytes"

/-- Transforms files. -/
def runFiles (fs : FileSystem m) (inputs : List String) (outDir config debugDir : Option String) :
    Session m Unit := do
  let config ← Session.quietly (readConfig fs config)
  let root ← Session.quietly (fs.workingDirectory.adapt (·.report))
  let host : Resolver m := InstalledPlugins.resolver {}
  let configured ← Session.ofPipeline (ScriptPipeline.ofConfig config host root)
  let batch ← Session.quietly (inputs.mapM (readFile fs))
  let results ← Session.ofPipeline (transformBatch fs configured.pipeline debugDir batch)
  match outDir with
  | some dir => Session.quietly (results.forM (writeFile fs dir))
  | none => results.forM fun f => Session.print (summary f)

/-- Checks one file; tells whether it is a script that is no module. -/
def checkFile (fs : FileSystem m) (path : String) : Session m Bool := do
  let file ← Session.quietly (readFile fs path)
  match file.kind with
  | .script =>
    match parseScript file.name file.text with
    | .ok _ =>
      Session.complain ("OK: " ++ file.name)
      return false
    | .error f =>
      Session.complain ("error: " ++ f.message)
      return true
  | _ => return false

/-- Checks files. -/
def checkFiles (fs : FileSystem m) (inputs : List String) : Session m Unit := do
  let failed := (← inputs.mapM (checkFile fs)).count true
  if failed > 0 then throw ⟨toString failed ++ " file(s) failed to parse", []⟩

/-- Does what the arguments of the program ask for. -/
def execute (fs : FileSystem m) (args : List String) : m Outcome :=
  match Request.ofArguments args with
  | .misuse => return ⟨2, {}⟩
  | .help => return ⟨0, {}⟩
  | .command _ (.run inputs outDir config debugDir) =>
    (runFiles fs inputs outDir config debugDir).outcome
  | .command _ (.check inputs) => (checkFiles fs inputs).outcome

end ScriptMaps.CommandLine
