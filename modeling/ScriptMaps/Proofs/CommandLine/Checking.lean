import ScriptMaps.Proofs.CommandLine.Operating
import ScriptMaps.Proofs.CommandLine.Sessions
import ScriptMaps.Proofs.Pipeline.Calling
import ScriptMaps.Proofs.Text.Lines

/-!
# Sessions that check files

Of every script it is said that it is a module, or why it is none (`Verdict`). A script is found to
be faulty exactly if no transformation can read it, for just the fault that all of them stop with,
whatever else they are asked to do (`judges_of`). A session that checks files prints the verdicts on
the scripts among them in order, and fails exactly if one is faulty (`execute_check_verdicts`). A
verdict has the lines that its text has: the wording of a fault may have several
(`exists_verdict_of_two_lines`).
-/

namespace ScriptMaps.CommandLine

variable {σ : Type}

/-- What is said of a script. -/
inductive Verdict where
  | sound (name : String)
  | faulty (fault : EngineFault)
  deriving DecidableEq

namespace Verdict

/-- The verdict on a text under a name. -/
def of (name text : String) : Verdict :=
  match parseScript name text with
  | .ok _ => .sound name
  | .error fault => .faulty fault

/-- The text of a verdict. -/
def text : Verdict → String
  | .sound name => "OK: " ++ name
  | .faulty fault => "error: " ++ fault.message

/-- The lines a verdict is printed as. -/
def lines (v : Verdict) : List String := v.text.splitOn "\n"

/-- Whether a verdict finds fault. -/
def isFaulty : Verdict → Bool
  | .sound _ => false
  | .faulty _ => true

/-- A verdict is right for a file: it is faulty for a place in the file, with a fault at which every
transformation of its text stops that takes it for that file; and if any of these stops at a fault
of the text, then the verdict is faulty with that. -/
structure Judges (file : OutputFile) (v : Verdict) : Prop where
  names : v = .sound file.name ∨
    ∃ line column message, v = .faulty (.parse file.name line column message)
  agrees : ∀ plugins options filename line column message, options.filename = some file.name →
    (v = .faulty (.parse filename line column message) ↔
      transformScript plugins file.text options = .error (.parse filename line column message))

end Verdict

/-! ## Faults of a text -/

section Faults

variable {name text filename message : String} {line column : Nat} {fault : EngineFault}
variable {plugins : List Plugin} {options : TransformOptions}

/-- A text is refused for a place in it. -/
lemma exists_parse_of_error (h : parseScript name text = .error fault) :
    ∃ line column message, fault = .parse name line column message := by
  unfold parseScript at h
  dsimp only at h
  split at h
  case h_1 => cases h
  case h_2 f _ =>
    cases h
    exact ⟨_, _, _, rfl⟩

/-- A map is not refused for a place in the text. -/
lemma scriptMap_ne_parse (generated : SourceMap.Document) :
    scriptMap options generated ≠ .error (.parse filename line column message) := by
  intro h
  unfold scriptMap at h
  dsimp only at h
  split at h
  case h_1 => cases h
  case h_2 =>
    split at h
    case h_1 => cases h
    case h_2 => cases h

/-- A transformation stops at a fault of the text exactly if the text cannot be read for that. -/
lemma transformScript_eq_parse_iff (named : options.filename = some name) :
    transformScript plugins text options = .error (.parse filename line column message) ↔
      parseScript name text = .error (.parse filename line column message) := by
  unfold transformScript
  dsimp only
  rw [named, Option.getD_some]
  cases read : parseScript name text with
  | error fault => rw [Except.error_bind, Except.error.injEq, Except.error.injEq]
  | ok parsed =>
    -- Once a text has been read, only its map can be at fault, and that is another fault.
    refine ⟨fun h => ?_, nofun⟩
    rw [Except.ok_bind] at h
    split at h
    case isTrue =>
      cases made : scriptMap options (SourceMap.Document.ofMarks _ _ _) with
      | ok d =>
        rw [made] at h
        cases h
      | error cause =>
        rw [made] at h
        cases h
        exact absurd made (scriptMap_ne_parse _)
    case isFalse => cases h

/-- The verdict on the text of a file is right for it. -/
lemma judges_of (file : OutputFile) : Verdict.Judges file (.of file.name file.text) := by
  unfold Verdict.of
  cases read : parseScript file.name file.text with
  | ok parsed =>
    refine ⟨.inl rfl, fun plugins options filename line column message named => ?_⟩
    rw [transformScript_eq_parse_iff named, read]
    exact ⟨nofun, nofun⟩
  | error fault =>
    obtain ⟨line, column, message, rfl⟩ := exists_parse_of_error read
    refine ⟨.inr ⟨line, column, message, rfl⟩, fun plugins options _ _ _ _ named => ?_⟩
    rw [transformScript_eq_parse_iff named, read, Verdict.faulty.injEq, Except.error.injEq]

end Faults

/-! ## What a session prints -/

section Printing

variable {fs : FileSystem (StateM σ)} {inputs : List String} {files : List OutputFile}
variable {s s' : σ} {notes : Output}

/-- The verdict on a file, if it is a script. -/
def verdict? (file : OutputFile) : Option Verdict :=
  if file.kind = .script then some (.of file.name file.text) else none

/-- There is a verdict for each script among files, and that is right. -/
lemma forall₂_judges (files : List OutputFile) :
    List.Forall₂ Verdict.Judges (scriptsOf files) (files.filterMap verdict?) := by
  induction files with
  | nil => exact .nil
  | cons file files ih =>
    by_cases script : file.kind = .script
    · have verdict : verdict? file = some (.of file.name file.text) := if_pos script
      rw [scriptsOf_cons script, List.filterMap_cons_some verdict]
      exact .cons (judges_of file) ih
    · have none : verdict? file = none := if_neg script
      rw [scriptsOf_cons_of_ne script, List.filterMap_cons_none none]
      exact ih

/-- A session goes on with one more verdict. -/
lemma performed_checkFile {path : String} {file : OutputFile}
    (read : (readFile fs path).run.run s = (.ok file, s')) (notes : Output) :
    performed (checkFile fs path) notes s =
      ((.ok ((verdict? file).any Verdict.isFaulty),
        { notes with stderr := notes.stderr ++ (verdict? file).toList.flatMap Verdict.lines }),
        s') := by
  refine (performed_bind_ok (performed_quietly read)).trans ?_
  cases kind : file.kind with
  | script =>
    have verdict : verdict? file = some (.of file.name file.text) := if_pos kind
    rw [verdict, Option.toList_some, List.flatMap_singleton]
    unfold Verdict.of
    cases parseScript file.name file.text with
    | ok => exact performed_bind_ok (performed_complain _ _ _)
    | error fault => exact performed_bind_ok (performed_complain _ _ _)
  | sourceMap | other =>
    have none : verdict? file = none := if_neg (by rw [kind]; decide)
    rw [none, Option.toList_none, List.flatMap_nil, List.append_nil]
    rfl

/-- The verdict on the first file comes before those on the others. -/
lemma filterMap_verdict?_cons (file : OutputFile) (files : List OutputFile) :
    (file :: files).filterMap verdict? = (verdict? file).toList ++ files.filterMap verdict? := by
  cases verdict : verdict? file with
  | none => rw [List.filterMap_cons_none verdict, Option.toList_none, List.nil_append]
  | some v => rw [List.filterMap_cons_some verdict, Option.toList_some, List.singleton_append]

/-- The verdicts on files are printed in their order, and the faulty ones are counted. -/
lemma performed_checkFiles (readable : (inputs.mapM (readFile fs)).run.run s = (.ok files, s'))
    (notes : Output) :
    ∃ failed, performed (inputs.mapM (checkFile fs)) notes s =
        ((.ok failed, { notes with
          stderr := notes.stderr ++ (files.filterMap verdict?).flatMap Verdict.lines }), s') ∧
      failed.count true = (files.filterMap verdict?).countP Verdict.isFaulty := by
  induction inputs generalizing files notes s with
  | nil =>
    cases readable
    refine ⟨[], ?_, rfl⟩
    rw [List.mapM_nil, performed_pure, List.reverse_nil, List.filterMap_nil, List.flatMap_nil,
      List.append_nil]
  | cons path inputs ih =>
    obtain ⟨file, others, s₁, rfl, read, rest⟩ := readFiles_cons readable
    have first := performed_checkFile read notes
    obtain ⟨failed, checked, count⟩ := ih rest
      { notes with stderr := notes.stderr ++ (verdict? file).toList.flatMap Verdict.lines }
    refine ⟨(verdict? file).any Verdict.isFaulty :: failed, ?_, ?_⟩
    · rw [List.mapM_cons, performed_bind_ok first, performed_bind_ok checked, performed_pure,
        filterMap_verdict?_cons, List.flatMap_append, List.append_assoc]
    · rw [filterMap_verdict?_cons, List.countP_append, ← count, List.count_cons, Nat.add_comm]
      refine congrArg (· + failed.count true) ?_
      cases verdict? file with
      | none => rfl
      | some v => cases v <;> rfl

end Printing

/-- What is printed last, once so many scripts were found to be faulty. -/
def closing (failed : Nat) : List String :=
  if failed = 0 then [] else ["Error: " ++ (toString failed ++ " file(s) failed to parse")]

/-- The report of how many scripts failed is one line. -/
lemma reportLines_failed (failed : Nat) :
    reportLines ⟨toString failed ++ " file(s) failed to parse", []⟩ =
      ["Error: " ++ (toString failed ++ " file(s) failed to parse")] := by
  have number : '\n' ∉ (toString failed).toList := by
    intro mem
    rw [Nat.toString_eq_ofList_toDigits, String.toList_ofList] at mem
    exact absurd (Nat.isDigit_of_mem_toDigits (by decide) (by decide) mem) (by decide)
  have oneLine : '\n' ∉ ("Error: " ++ (toString failed ++ " file(s) failed to parse")).toList := by
    rw [String.toList_append, String.toList_append, List.mem_append, List.mem_append, not_or,
      not_or]
    exact ⟨by decide, number, by decide⟩
  unfold reportLines
  rw [Text.splitOn_newline_eq_singleton oneLine]
  rfl

/-- What comes of a check of files that can be read. -/
lemma run_check {fs : FileSystem (StateM σ)} {args inputs : List String} {verbosity : Nat}
    {files : List OutputFile} {s s' : σ}
    (asked : Request.ofArguments args = .command verbosity (.check inputs))
    (readable : (inputs.mapM (readFile fs)).run.run s = (.ok files, s')) {verdicts : List Verdict}
    (said : files.filterMap verdict? = verdicts) :
    (execute fs args).run s =
      (⟨if verdicts.countP Verdict.isFaulty = 0 then 0 else 1,
        { stderr := verdicts.flatMap Verdict.lines ++
            closing (verdicts.countP Verdict.isFaulty) }⟩, s') := by
  obtain rfl := said
  obtain ⟨failed, checked, count⟩ := performed_checkFiles readable {}
  have session : execute fs args = (checkFiles fs inputs).outcome := by
    unfold execute
    rw [asked]
  let printed : Output := { stderr := (files.filterMap verdict?).flatMap Verdict.lines }
  rw [session, ← count]
  by_cases none : failed.count true = 0
  · have ends : performed (checkFiles fs inputs) {} s = ((.ok (), printed), s') := by
      unfold checkFiles
      rw [performed_bind_ok checked, if_neg (by omega)]
      rfl
    rw [run_outcome ends, if_pos none, closing, if_pos none, List.append_nil]
  · have ends : performed (checkFiles fs inputs) {} s =
        ((.error ⟨toString (failed.count true) ++ " file(s) failed to parse", []⟩, printed),
          s') := by
      unfold checkFiles
      rw [performed_bind_ok checked, if_pos (Nat.pos_of_ne_zero none)]
      rfl
    rw [run_outcome ends, if_neg none, closing, if_neg none]
    dsimp only
    rw [reportLines_failed]

/-- A program that checks files it can read prints a verdict on each script among them, in order,
and nothing on other files. Each is right for its script: it is faulty exactly with the fault of the
text at which any transformation of it stops, whatever plugins and options this is given. The
program fails exactly if a verdict is faulty, and tells how many are. A verdict is printed in one
line, and one more for each line feed in its text. -/
theorem execute_check_verdicts {fs : FileSystem (StateM σ)} {args inputs : List String}
    {verbosity : Nat} {files : List OutputFile} {s s' : σ}
    (asked : Request.ofArguments args = .command verbosity (.check inputs))
    (readable : (inputs.mapM (readFile fs)).run.run s = (.ok files, s')) :
    files.map (·.name) = inputs ∧
    ∃ verdicts : List Verdict, List.Forall₂ Verdict.Judges (scriptsOf files) verdicts ∧
      (execute fs args).run s =
        (⟨if verdicts.countP Verdict.isFaulty = 0 then 0 else 1,
          { stderr := verdicts.flatMap Verdict.lines ++
              closing (verdicts.countP Verdict.isFaulty) }⟩, s') ∧
      ∀ v ∈ verdicts, v.lines.length = v.text.toList.count '\n' + 1 ∧
        ('\n' ∉ v.text.toList → v.lines = [v.text]) := by
  exact ⟨names_of_readFiles readable, files.filterMap verdict?, forall₂_judges files,
    run_check asked readable rfl,
    fun v _ => ⟨Text.length_splitOn_newline _, Text.splitOn_newline_eq_singleton⟩⟩

/-- A check of a script, of one that is no module, and of a file that is no script. -/
theorem execute_check_verdicts_mixed :
    let d : Disk := ⟨[(["work"], .directory), (["work", "a.js"], .file "f();".toUTF8),
      (["work", "b.js"], .file "f(".toUTF8), (["work", "notes.txt"], .file "f(".toUTF8)],
      ["work"]⟩
    let inputs := ["notes.txt", "b.js", "a.js"]
    let files : List OutputFile :=
      [⟨"notes.txt", "f(", false⟩, ⟨"b.js", "f(", false⟩, ⟨"a.js", "f();", false⟩]
    Request.ofArguments ("check" :: inputs) = .command 0 (.check inputs) ∧
    ∃ verdicts d', (inputs.mapM (readFile Disk.fileSystem)).run.run d = (.ok files, d') ∧
      List.Forall₂ Verdict.Judges (scriptsOf files) verdicts ∧
      (execute Disk.fileSystem ("check" :: inputs)).run d =
        (⟨1, { stderr := verdicts.flatMap Verdict.lines ++
          closing (verdicts.countP Verdict.isFaulty) }⟩, d') := by
  intro d inputs files
  have asked : Request.ofArguments ("check" :: inputs) = .command 0 (.check inputs) := by
    decide +kernel
  rcases read : (inputs.mapM (readFile Disk.fileSystem)).run.run d with ⟨result, d'⟩
  have readable : ((inputs.mapM (readFile Disk.fileSystem)).run.run d).1 = .ok files := by
    decide +kernel
  rw [read] at readable
  obtain rfl := readable
  obtain ⟨-, verdicts, judged, ran, -⟩ := execute_check_verdicts asked read
  have fails : ((execute Disk.fileSystem ("check" :: inputs)).run d).1.exitCode = 1 := by
    decide +kernel
  rw [ran] at fails
  dsimp only at fails
  rw [fails] at ran
  exact ⟨asked, verdicts, d', rfl, judged, ran⟩

/-- A check of one script that cannot be read for a fault that is worded in two lines: these are
printed, and then the number of faulty scripts. -/
theorem exists_verdict_of_two_lines :
    let text := "import \x7b \"x\" \x7d from \"y\""
    let d : Disk := ⟨[(["work"], .directory), (["work", "a.js"], .file text.toUTF8)], ["work"]⟩
    let file : OutputFile := ⟨"a.js", text, false⟩
    Request.ofArguments ["check", "a.js"] = .command 0 (.check ["a.js"]) ∧
    ∃ d', (["a.js"].mapM (readFile Disk.fileSystem)).run.run d = (.ok [file], d') ∧
      scriptsOf [file] = [file] ∧
      (execute Disk.fileSystem ["check", "a.js"]).run d = (⟨1, { stderr :=
        ["error: a.js:1:10: A string literal cannot be used as an imported binding.",
          "- Did you mean `import \x7b \"x\" as foo \x7d`?",
          "Error: 1 file(s) failed to parse"] }⟩, d') := by
  intro text d file
  have asked : Request.ofArguments ["check", "a.js"] = .command 0 (.check ["a.js"]) := by
    decide +kernel
  rcases read : (["a.js"].mapM (readFile Disk.fileSystem)).run.run d with ⟨result, d'⟩
  have readable : ((["a.js"].mapM (readFile Disk.fileSystem)).run.run d).1 = .ok [file] := by
    decide +kernel
  rw [read] at readable
  obtain rfl := readable
  have said : [file].filterMap verdict? = [.faulty (.parse "a.js" 1 10
      ("A string literal cannot be used as an imported binding.\n"
        ++ "- Did you mean `import \x7b \"x\" as foo \x7d`?"))] := by
    decide +kernel
  refine ⟨asked, d', rfl, by decide, ?_⟩
  rw [run_check asked read said, List.flatMap_singleton, Verdict.lines, Text.splitOn_newline]
  refine congrArg (·, d') ?_
  decide +kernel

end ScriptMaps.CommandLine
