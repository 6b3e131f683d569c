/-!
# Arguments

What the program is asked for. A command has paths as arguments and options with or without values;
an option may be written with its long name or its short one, a value may follow a long name after
an equals sign and a short one directly. After `--` everything is a path.
-/

namespace ScriptMaps.CommandLine

/-- What is to be done. -/
inductive Command where
  /-- Transform files; write the results to a directory, if one is named, and all that goes in and
  comes out to another. -/
  | run (inputs : List String) (outDir config debugDir : Option String)
  /-- Read scripts and report those that are no modules. -/
  | check (inputs : List String)
  deriving Repr, DecidableEq, Inhabited

/-- What the arguments ask for. -/
inductive Request where
  | command (verbosity : Nat) (c : Command)
  /-- An explanation of the arguments. -/
  | help
  /-- The arguments make no sense. -/
  | misuse
  deriving Repr, DecidableEq, Inhabited

/-- An option with a value. -/
inductive ValueOption where
  | outDir
  | config
  | debugDir
  deriving Repr, DecidableEq, Inhabited

/-- The arguments of a command as far as they have been read. -/
structure Reading where
  verbosity : Nat := 0
  inputs : List String := []
  values : List (ValueOption × String) := []
  deriving Repr, DecidableEq, Inhabited

/-- Why reading stops. -/
inductive Stop where
  | help
  | misuse
  deriving Repr, DecidableEq, Inhabited

/-- The options with values that a command has, by their long names. -/
def longOption? (isRun : Bool) (name : String) : Option ValueOption :=
  match isRun, name with
  | true, "out-dir" => some .outDir
  | true, "config" => some .config
  | true, "debug-dir" => some .debugDir
  | _, _ => none

/-- The options with values that a command has, by their short names. -/
def shortOption? (isRun : Bool) (name : Char) : Option ValueOption :=
  match isRun, name with
  | true, 'o' => some .outDir
  | true, 'c' => some .config
  | _, _ => none

namespace Reading

/-- Takes a path. -/
def addInput (r : Reading) (path : String) : Except Stop Reading :=
  if path.isEmpty then .error .misuse else .ok { r with inputs := r.inputs ++ [path] }

/-- Takes the value of an option, which may have only one. -/
def addValue (r : Reading) (o : ValueOption) (value : String) : Except Stop Reading :=
  if value.isEmpty || r.values.any (·.1 == o) then .error .misuse
  else .ok { r with values := r.values ++ [(o, value)] }

/-- Takes one more wish for details. -/
def addVerbosity (r : Reading) : Reading := { r with verbosity := r.verbosity + 1 }

/-- The value of an option. -/
def value? (r : Reading) (o : ValueOption) : Option String :=
  (r.values.find? (·.1 == o)).map (·.2)

end Reading

/-- What an argument is read as: done with, or the option whose value the next argument is. -/
inductive Step where
  | done (r : Reading)
  | awaits (o : ValueOption) (r : Reading)
  deriving Repr, DecidableEq, Inhabited

/-- Reads an argument that begins with two dashes, which are dropped. -/
def readLong (isRun : Bool) (r : Reading) (text : List Char) : Except Stop Step :=
  let name := String.ofList (text.takeWhile (· != '='))
  match longOption? isRun name, text.dropWhile (· != '=') with
  | some o, [] => .ok (.awaits o r)
  | some o, _ :: value => Step.done <$> r.addValue o (String.ofList value)
  | none, [] =>
    if name == "verbose" then .ok (.done r.addVerbosity)
    else if name == "help" then .error .help
    else .error .misuse
  | none, _ :: _ => .error .misuse

/-- Reads an argument that begins with one dash, which is dropped. -/
def readShort (isRun : Bool) (r : Reading) : List Char → Except Stop Step
  | [] => .ok (.done r)
  | c :: rest =>
    match shortOption? isRun c, rest with
    | some o, [] => .ok (.awaits o r)
    | some o, '=' :: value => Step.done <$> r.addValue o (String.ofList value)
    | some o, value => Step.done <$> r.addValue o (String.ofList value)
    | none, _ =>
      if c == 'v' then readShort isRun r.addVerbosity rest
      else if c == 'h' then .error .help
      else .error .misuse

/-- Whether an argument can only be an option. -/
def looksLikeOption (arg : String) : Bool :=
  match arg.toList with
  | ['-'] => false
  | '-' :: _ => true
  | _ => false

/-- Reads one argument. -/
def readArgument (isRun : Bool) (r : Reading) (arg : String) : Except Stop Step :=
  match arg.toList with
  | ['-'] => Step.done <$> r.addInput arg
  | '-' :: '-' :: text => readLong isRun r text
  | '-' :: text => readShort isRun r text
  | _ => Step.done <$> r.addInput arg

/-- Reads the arguments of a command. -/
def readArguments (isRun : Bool) (r : Reading) (awaited : Option ValueOption) :
    List String → Except Stop Reading
  | [] => if awaited.isSome then .error .misuse else .ok r
  | arg :: rest =>
    match awaited with
    | some o =>
      if looksLikeOption arg then .error .misuse
      else do readArguments isRun (← r.addValue o arg) none rest
    | none =>
      if arg == "--" then rest.foldlM Reading.addInput r
      else do
        match ← readArgument isRun r arg with
        | .done r => readArguments isRun r none rest
        | .awaits o r => readArguments isRun r (some o) rest

/-- The words that name a command. -/
def commandNames : List String := ["run", "check", "help"]

/-- The command of arguments that have been read, which needs a path. -/
def Reading.request (isRun : Bool) (r : Reading) : Request :=
  if r.inputs.isEmpty then .misuse
  else if isRun then
    .command r.verbosity (.run r.inputs (r.value? .outDir) (r.value? .config) (r.value? .debugDir))
  else .command r.verbosity (.check r.inputs)

/-- What arguments ask for after a command. -/
def readCommand (isRun : Bool) (r : Reading) (args : List String) : Request :=
  match readArguments isRun r none args with
  | .ok r => r.request isRun
  | .error .help => .help
  | .error .misuse => .misuse

/-- What arguments ask for after the word `help`. -/
def readHelp : List String → Request
  | [] => .help
  | [name] => if commandNames.contains name then .help else .misuse
  | _ => .misuse

/-- What arguments ask for. Before the command only general options may stand. -/
def readRequest (r : Reading) : List String → Request
  | [] => .misuse
  | arg :: rest =>
    match arg with
    | "run" => readCommand true r rest
    | "check" => readCommand false r rest
    | "help" => readHelp rest
    | "--" => .misuse
    | _ =>
      match readArgument false r arg with
      | .ok (.done next) => if next.inputs.isEmpty then readRequest next rest else .misuse
      | .ok (.awaits _ _) => .misuse
      | .error .help => .help
      | .error .misuse => .misuse

/-- What the arguments of the program ask for. -/
def Request.ofArguments (args : List String) : Request := readRequest {} args

end ScriptMaps.CommandLine
