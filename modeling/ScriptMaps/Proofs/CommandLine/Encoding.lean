import ScriptMaps.Proofs.CommandLine.Overwriting

/-!
# Bytes and byte order marks

A file's contents are taken apart into a byte order mark and a text, and put together again when it
is written. Contents that are read are written again byte by byte (`encoded_fileOfText`), and what
is written for a file is read as that file, unless its text begins with a byte order mark that the
file is said not to have (`fileOfText_writtenText_iff`). A result has the byte order mark of the
input of the same name, so what holds of single files holds of what a run reads and writes
(`execute_run_keeps_bytes`).
-/

namespace ScriptMaps.CommandLine

variable {name text : String}

/-! ## Bytes -/

/-- The bytes of a byte order mark. -/
def markBytes : ByteArray := ⟨#[0xEF, 0xBB, 0xBF]⟩

/-- Contents begin with a byte order mark. -/
def Marked (contents : ByteArray) : Prop := ∃ rest, contents = markBytes ++ rest

/-- The bytes of a byte order mark are those of the character. -/
lemma markBytes_eq : markBytes = [byteOrderMark].utf8Encode := by decide +kernel

/-- The bytes of a text behind a byte order mark. -/
lemma toUTF8_mark (chars : List Char) :
    (String.ofList (byteOrderMark :: chars)).toUTF8 =
      markBytes ++ (String.ofList chars).toUTF8 := by
  rw [markBytes_eq]
  change (byteOrderMark :: chars).utf8Encode = [byteOrderMark].utf8Encode ++ chars.utf8Encode
  rw [← List.utf8Encode_append, List.singleton_append]

/-- The bytes of a text begin with those of a byte order mark if and only if the text begins with
one. -/
lemma marked_toUTF8_iff : Marked text.toUTF8 ↔ text.toList.head? = some byteOrderMark := by
  constructor
  · rintro ⟨rest, whole⟩
    have bytes : [byteOrderMark].utf8Encode ++ rest = text.toList.utf8Encode := by
      rw [← markBytes_eq, ← whole, String.utf8Encode_toList]
      rfl
    obtain ⟨others, split⟩ := List.isPrefix_of_utf8Encode_append_eq_utf8Encode rest bytes
    rw [← split]
    rfl
  · intro first
    obtain ⟨others, split⟩ := List.head?_eq_some_iff.1 first
    refine ⟨(String.ofList others).toUTF8, ?_⟩
    rw [← toUTF8_mark, ← split, String.ofList_toList]

/-! ## Files -/

/-- A text that begins with a byte order mark is read without it. -/
lemma fileOfText_mark (name : String) (chars : List Char) :
    fileOfText name (String.ofList (byteOrderMark :: chars)) =
      ⟨name, String.ofList chars, true⟩ := by
  unfold fileOfText
  rw [String.toList_ofList]
  exact if_pos rfl

/-- A text that begins with no byte order mark is read as it is. -/
lemma fileOfText_plain (name : String) (plain : text.toList.head? ≠ some byteOrderMark) :
    fileOfText name text = ⟨name, text, false⟩ := by
  unfold fileOfText
  split
  case h_1 c rest begins =>
    rw [begins] at plain
    exact if_neg (by simpa using plain)
  case h_2 => rfl

/-- A text begins with a byte order mark or does not. -/
lemma mark_or_plain (text : String) :
    (∃ chars, text = String.ofList (byteOrderMark :: chars)) ∨
      text.toList.head? ≠ some byteOrderMark := by
  by_cases first : text.toList.head? = some byteOrderMark
  · obtain ⟨chars, split⟩ := List.head?_eq_some_iff.1 first
    exact .inl ⟨chars, by rw [← split, String.ofList_toList]⟩
  · exact .inr first

/-- What is written for a file that was read is what was read. -/
lemma writtenText_fileOfText (name text : String) : writtenText (fileOfText name text) = text := by
  obtain ⟨chars, rfl⟩ | plain := mark_or_plain text
  · rw [fileOfText_mark, writtenText, if_pos rfl, String.toList_ofList]
  · rw [fileOfText_plain name plain]
    rfl

/-- What is read of a file that was written is that file, unless the text of a file without a byte
order mark begins with one. -/
lemma fileOfText_writtenText_iff (f : OutputFile) :
    ((fileOfText name (writtenText f)).text = f.text ∧
        (fileOfText name (writtenText f)).writeByteOrderMark = f.writeByteOrderMark) ↔
      ¬ (f.writeByteOrderMark = false ∧ f.text.toList.head? = some byteOrderMark) := by
  obtain ⟨_, text, mark⟩ := f
  cases mark with
  | true =>
    rw [writtenText, if_pos rfl, fileOfText_mark]
    simp
  | false =>
    change
      ((fileOfText name text).text = text ∧ (fileOfText name text).writeByteOrderMark = false) ↔
      _
    obtain ⟨chars, rfl⟩ | plain := mark_or_plain text
    · rw [fileOfText_mark]
      simp
    · rw [fileOfText_plain name plain]
      simpa using plain

/-- A file has a byte order mark if and only if its contents begin with one. -/
lemma mark_fileOfText_iff :
    (fileOfText name text).writeByteOrderMark = true ↔ Marked text.toUTF8 := by
  rw [marked_toUTF8_iff]
  obtain ⟨chars, rfl⟩ | plain := mark_or_plain text
  · rw [fileOfText_mark]
    simp
  · rw [fileOfText_plain name plain]
    simpa using plain

/-- The bytes written for a file that was read are those that were read. -/
lemma encoded_fileOfText (name text : String) : encoded (fileOfText name text) = text.toUTF8 := by
  rw [encoded, writtenText_fileOfText]

/-- A file is written as its text, behind a byte order mark if it has one. -/
lemma encoded_eq (f : OutputFile) :
    encoded f =
      if f.writeByteOrderMark then markBytes ++ f.text.toUTF8 else f.text.toUTF8 := by
  rw [encoded, writtenText]
  split
  case isTrue => rw [toUTF8_mark, String.ofList_toList]
  case isFalse => rfl

/-! ## Inputs and results -/

section Runs

variable {fs : FileSystem (StateM Disk)} (careful : fs.Careful) {d : Disk}

include careful

/-- Every file of a batch that was read can be read under its name. -/
lemma readFile_of_mem {inputs : List String} {files : List OutputFile}
    (h : (inputs.mapM (readFile fs)).run.run d = (.ok files, d)) :
    ∀ f ∈ files, (readFile fs f.name).run.run d = (.ok f, d) := by
  induction inputs generalizing files with
  | nil =>
    cases h
    nofun
  | cons path inputs ih =>
    obtain ⟨first, others, d₁, rfl, read, rest⟩ := readFiles_cons h
    obtain ⟨result, same⟩ := leaves_readFile careful path d
    obtain rfl := (Prod.mk.inj (same.symm.trans read)).2
    obtain rfl := name_of_readFile read
    exact List.forall_mem_cons.2 ⟨read, ih rest⟩

/-- What is written for a result, by the contents of the input of the same name: these themselves,
or the text of the result, with a byte order mark if they begin with one. -/
lemma exists_contents {inputs : List String} {config : Option String} {configured : ScriptPipeline}
    {batch results : List OutputFile} (loaded : Loaded fs d inputs config configured batch)
    (transforms : Transforms configured batch (.ok results)) {f : OutputFile} (mem : f ∈ results) :
    ∃ contents, (fs.read f.name).run.run d = (.ok contents, d) ∧
      (f.kind = .other → encoded f = contents) ∧
      (Marked contents → encoded f = markBytes ++ f.text.toUTF8) ∧
      (¬ Marked contents → encoded f = f.text.toUTF8) := by
  obtain ⟨source, isIn, name, mark, same⟩ := transforms.exists_standsFor f mem
  obtain ⟨text, read, made⟩ := readFile_eq_ok_iff.1 (readFile_of_mem careful loaded.readable _ isIn)
  have marked : f.writeByteOrderMark = true ↔ Marked text.toUTF8 := by
    rw [mark, made]
    exact mark_fileOfText_iff
  refine ⟨text.toUTF8, name ▸ read, fun other => ?_, fun has => ?_, fun lacks => ?_⟩
  · have kind : source.kind = .other := by
      rw [← other]
      exact congrArg FileName.kind name.symm
    rw [same kind, made, encoded_fileOfText]
  · rw [encoded_eq, if_pos (marked.2 has)]
  · rw [encoded_eq, if_neg (mt marked.1 lacks)]

end Runs

/-- A run that succeeds in writing its results writes those that are passed on byte by byte as they
were read, and scripts and maps as their texts, behind one byte order mark if and only if the input
of the same name begins with one, unless a later result has the same destination. For whatever is
read from a file that holds a text is written as it was; and what is written for a file is read as
its text with the same mark if and only if it is not a text with a mark at its beginning in a file
without one. There are no links, so only a result with the same destination can be in the way. -/
theorem execute_run_keeps_bytes {fs : FileSystem (StateM Disk)} (careful : fs.Careful) :
    (∀ {args inputs : List String} {verbosity : Nat} {out : String}
      {config debugDir : Option String} {d d' : Disk} {outcome : Outcome},
      Request.ofArguments args = .command verbosity (.run inputs (some out) config debugDir) →
      (execute fs args).run d = (outcome, d') → outcome.exitCode = 0 →
      ∃ configured batch results, Loaded fs d inputs config configured batch ∧
        Transforms configured batch (.ok results) ∧
        ∀ before f after, results = before ++ f :: after →
          (∀ g ∈ after, destination out g.name ≠ destination out f.name) →
          ∃ contents, (fs.read f.name).run.run d = (.ok contents, d) ∧
            (f.kind = .other → d'.read (destination out f.name) = .ok contents) ∧
            (Marked contents →
              d'.read (destination out f.name) = .ok (markBytes ++ f.text.toUTF8)) ∧
            (¬ Marked contents → d'.read (destination out f.name) = .ok f.text.toUTF8)) ∧
    (∀ {path : String} {contents : ByteArray} {d d' : Disk},
      (fs.read path).run.run d = (.ok contents, d') → contents.IsValidUTF8 →
      ∃ f, (readFile fs path).run.run d = (.ok f, d') ∧ f.name = path ∧ encoded f = contents) ∧
    ∀ {path : String} {f : OutputFile} {d d' : Disk},
      (fs.read path).run.run d = (.ok (encoded f), d') →
      ∃ g, (readFile fs path).run.run d = (.ok g, d') ∧
        (g.text = f.text ∧ g.writeByteOrderMark = f.writeByteOrderMark ↔
          ¬ (f.writeByteOrderMark = false ∧ f.text.toList.head? = some byteOrderMark)) := by
  refine ⟨fun asked ran succeeds => ?_, fun {path contents d d'} read valid => ?_,
    fun {path f d d'} read => ?_⟩
  · obtain ⟨configured, batch, results, loaded, transforms, kept⟩ :=
      exists_kept careful asked ran succeeds
    refine ⟨configured, batch, results, loaded, transforms,
      fun before f after split different => ?_⟩
    have mem : f ∈ results := split ▸ List.mem_append_right _ List.mem_cons_self
    obtain ⟨contents, read, passed, marked, plain⟩ := exists_contents careful loaded transforms mem
    rw [kept before f after split different]
    exact ⟨contents, read, fun other => congrArg _ (passed other),
      fun has => congrArg _ (marked has), fun lacks => congrArg _ (plain lacks)⟩
  · have isText : contents = (String.fromUTF8 contents valid).toUTF8 := rfl
    generalize String.fromUTF8 contents valid = text at isText
    subst isText
    exact ⟨fileOfText path text, readFile_eq_ok_iff.2 ⟨text, read, rfl⟩, name_fileOfText path text,
      encoded_fileOfText path text⟩
  · exact ⟨fileOfText path (writtenText f), readFile_eq_ok_iff.2 ⟨_, read, rfl⟩,
      fileOfText_writtenText_iff f⟩

/-- A run over a script and a map with byte order marks and over a file with two of them. -/
theorem execute_run_keeps_bytes_twice :
    let map : String := SourceMap.Document.toJson { sources := ["a.ts"] }
    let twice : ByteArray := markBytes ++ (markBytes ++ "b".toUTF8)
    let d : Disk := ⟨[(["work"], .directory),
      (["work", "a.js"], .file (markBytes ++ "f();".toUTF8)),
      (["work", "a.js.map"], .file (markBytes ++ map.toUTF8)),
      (["work", "notes.txt"], .file twice)], ["work"]⟩
    let inputs := ["a.js", "a.js.map", "notes.txt"]
    let args := ["run", "-o", "out"] ++ inputs
    Disk.fileSystem.Careful ∧
    Request.ofArguments args = .command 0 (.run inputs (some "out") none none) ∧
    (∃ outcome d', (execute Disk.fileSystem args).run d = (outcome, d') ∧ outcome.exitCode = 0 ∧
      d'.read "out/a.js.map" = .ok (markBytes ++ map.toUTF8) ∧
      d'.read "out/notes.txt" = .ok twice) ∧
    twice.IsValidUTF8 ∧
    (∃ f, (readFile Disk.fileSystem "notes.txt").run.run d = (.ok f, d) ∧ encoded f = twice) ∧
    ∃ g, (readFile Disk.fileSystem "notes.txt").run.run d = (.ok g, d) ∧
      g.text = String.ofList [byteOrderMark, 'b'] ∧ g.writeByteOrderMark = true := by
  intro map twice d inputs args
  obtain ⟨runs, reads, rereads⟩ := execute_run_keeps_bytes careful_fileSystem
  have asked : Request.ofArguments args = .command 0 (.run inputs (some "out") none none) := by
    decide +kernel
  let script : OutputFile := ⟨"a.js", "f();\n\n//# sourceMappingURL=a.js.map", true⟩
  let mapFile : OutputFile := ⟨"a.js.map", map, true⟩
  let notes : OutputFile := ⟨"notes.txt", String.ofList [byteOrderMark, 'b'], true⟩
  let batch : List OutputFile := [⟨"a.js", "f();", true⟩, mapFile, notes]
  have loaded' : Loaded Disk.fileSystem d inputs none ⟨[], {}⟩ batch :=
    loaded_of_eq (by decide +kernel)
  have transforms' : Transforms ⟨[], {}⟩ batch (.ok [script, mapFile, notes]) :=
    transforms_of_eq (d := {}) (by decide +kernel)
  have opened {path : String} {contents : ByteArray}
      (holds : ((Disk.fileSystem.read path).run.run d).1 = .ok contents) :
      (Disk.fileSystem.read path).run.run d = (.ok contents, d) :=
    (careful_fileSystem.read path).run_eq holds
  have notesRead : (Disk.fileSystem.read "notes.txt").run.run d = (.ok (encoded notes), d) :=
    opened (by decide +kernel)
  have mapRead : (Disk.fileSystem.read "a.js.map").run.run d = (.ok (markBytes ++ map.toUTF8), d) :=
    opened (by decide +kernel)
  have same : encoded notes = twice := by decide +kernel
  have valid : twice.IsValidUTF8 := same ▸ (writtenText notes).isValidUTF8
  refine ⟨careful_fileSystem, asked, ?_, valid, ?_, ?_⟩
  · rcases ran : (execute Disk.fileSystem args).run d with ⟨outcome, d'⟩
    have succeeds : ((execute Disk.fileSystem args).run d).1.exitCode = 0 := by decide +kernel
    rw [ran] at succeeds
    obtain ⟨configured, _, results, loaded, transforms, kept⟩ := runs asked ran succeeds
    obtain ⟨rfl, rfl⟩ := loaded.unique loaded'
    obtain rfl := Except.ok.inj (transforms.unique transforms')
    obtain ⟨_, read, -, marked, -⟩ := kept [script] mapFile [notes] rfl (by decide +kernel)
    obtain ⟨_, read', passed, -⟩ := kept [script, mapFile] notes [] rfl nofun
    obtain rfl := Except.ok.inj (Prod.mk.inj (read.symm.trans mapRead)).1
    obtain rfl := Except.ok.inj (Prod.mk.inj (read'.symm.trans notesRead)).1
    have mapPlace : destination "out" mapFile.name = "out/a.js.map" := by decide +kernel
    have notesPlace : destination "out" notes.name = "out/notes.txt" := by decide +kernel
    rw [mapPlace] at marked
    rw [notesPlace, same] at passed
    exact ⟨outcome, d', rfl, succeeds, marked ⟨_, rfl⟩, passed (by decide +kernel)⟩
  · obtain ⟨f, read, -, written⟩ := reads (same ▸ notesRead) valid
    exact ⟨f, read, written⟩
  · obtain ⟨g, read, agrees⟩ := rereads notesRead
    exact ⟨g, read, agrees.2 (by decide)⟩

end ScriptMaps.CommandLine
