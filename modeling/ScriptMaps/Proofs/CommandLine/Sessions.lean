import ScriptMaps.CommandLine.Session
import ScriptMaps.Proofs.Pipeline.Handling

/-!
# Steps of a session

A session takes notes of what it prints. Here is what its steps do to the notes, what comes of a
session in the end (`run_outcome`), and that files that are read are named by their paths
(`names_of_readFiles`). All of this holds whatever the files are kept in.
-/

namespace ScriptMaps.CommandLine

variable {σ α : Type} {fs : FileSystem (StateM σ)} {s s' : σ} {notes : Output}

/-! ## Notes -/

/-- A step that prints nothing takes no notes. -/
lemma performed_quietly {x : ExceptT Report (StateM σ) α} {result : Except Report α}
    (h : x.run.run s = (result, s')) :
    performed (Session.quietly x) notes s = ((result, notes), s') := by
  unfold performed Session.quietly
  rw [ExceptT.run_mk, StateT.run_lift, StateT.run_bind, h]
  rfl

/-- A step of a pipeline takes no notes, and its fault is reported. -/
lemma performed_ofPipeline {x : ExceptT PipelineFault (StateM σ) α}
    {result : Except PipelineFault α} (h : x.run.run s = (result, s')) :
    performed (Session.ofPipeline x) notes s = ((result.mapError (·.report), notes), s') :=
  performed_quietly (run_adapt h _)

/-- A complaint is noted line by line. -/
lemma performed_complain (text : String) (notes : Output) (s : σ) :
    performed (Session.complain text : Session (StateM σ) Unit) notes s =
      ((.ok (), { notes with stderr := notes.stderr ++ text.splitOn "\n" }), s) := rfl

/-- A session fails exactly if it stops with a report, which is printed last. -/
lemma run_outcome {session : Session (StateM σ) Unit} {result : Except Report Unit}
    (h : performed session {} s = ((result, notes), s')) :
    session.outcome.run s =
      (match result with
        | .ok () => ⟨0, notes⟩
        | .error r => ⟨1, { notes with stderr := notes.stderr ++ reportLines r }⟩, s') := by
  unfold performed at h
  rw [Session.outcome, StateT.run_bind, h]
  cases result <;> rfl

/-! ## Files that are read -/

/-- A file is named as it was asked for. -/
lemma name_fileOfText (name text : String) : (fileOfText name text).name = name := by
  unfold fileOfText
  split
  · split <;> rfl
  · rfl

/-- The bytes of a text are read as that text, and no others are. -/
lemma fromUTF8?_eq_some_iff {contents : ByteArray} {text : String} :
    String.fromUTF8? contents = some text ↔ contents = text.toUTF8 := by
  unfold String.fromUTF8?
  constructor
  · intro h
    split at h
    case isTrue valid =>
      obtain rfl := Option.some.inj h
      rfl
    case isFalse => cases h
  · rintro rfl
    exact dif_pos text.isValidUTF8

/-- A file can be read if and only if its contents are a text. -/
lemma readFile_eq_ok_iff {path : String} {f : OutputFile} :
    (readFile fs path).run.run s = (.ok f, s') ↔
      ∃ text, (fs.read path).run.run s = (.ok text.toUTF8, s') ∧ f = fileOfText path text := by
  constructor
  · intro h
    obtain ⟨text, s₁, adapted, made⟩ := exists_of_run_bind h
    obtain ⟨contents, s₂, read, isText⟩ := exists_of_run_bind (of_run_adapt adapted)
    split at isText
    case h_1 text' known =>
      obtain rfl := fromUTF8?_eq_some_iff.1 known
      cases isText
      cases made
      exact ⟨text, read, rfl⟩
    case h_2 => cases isText
  · rintro ⟨text, read, rfl⟩
    have known : (fs.readText path).run.run s = (.ok text, s') := by
      unfold FileSystem.readText
      rw [run_bind_ok read, fromUTF8?_eq_some_iff.2 rfl]
      rfl
    exact run_bind_ok (run_adapt known _)

/-- A file that was read is named by its path. -/
lemma name_of_readFile {path : String} {f : OutputFile}
    (h : (readFile fs path).run.run s = (.ok f, s')) : f.name = path := by
  obtain ⟨text, -, rfl⟩ := readFile_eq_ok_iff.1 h
  exact name_fileOfText path text

/-- Files are read one after the other. -/
lemma readFiles_cons {path : String} {inputs : List String} {files : List OutputFile}
    (h : ((path :: inputs).mapM (readFile fs)).run.run s = (.ok files, s')) :
    ∃ f others s₁, files = f :: others ∧ (readFile fs path).run.run s = (.ok f, s₁) ∧
      (inputs.mapM (readFile fs)).run.run s₁ = (.ok others, s') := by
  rw [List.mapM_cons] at h
  obtain ⟨f, s₁, first, h⟩ := exists_of_run_bind h
  obtain ⟨others, s₂, rest, made⟩ := exists_of_run_bind h
  cases made
  exact ⟨f, others, s₁, rfl, first, rest⟩

/-- Files that were read are named by their paths. -/
lemma names_of_readFiles {inputs : List String} {files : List OutputFile}
    (h : (inputs.mapM (readFile fs)).run.run s = (.ok files, s')) :
    files.map (·.name) = inputs := by
  induction inputs generalizing files s with
  | nil =>
    cases h
    rfl
  | cons path inputs ih =>
    obtain ⟨f, others, s₁, rfl, read, rest⟩ := readFiles_cons h
    rw [List.map_cons, name_of_readFile read, ih rest]

end ScriptMaps.CommandLine
