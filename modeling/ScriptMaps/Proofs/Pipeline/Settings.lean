import ScriptMaps.Files.OutputFile
import ScriptMaps.Pipeline.Config
import ScriptMaps.Proofs.SourceMap.Documents

/-!
# Reading back settings and files

Options, configurations and files are written as records of all their fields. A file is read back as
it is. Options are read back without their comment filter, which is not written, and so are the
options in a configuration. A map in the options is an object inside of others, so its values may be
nested less deeply than those of a map file, by one for options and by two for a configuration
(`settings_reread`).
-/

namespace ScriptMaps

open ScriptMaps.Json ScriptMaps.Json.Reader
open ScriptMaps.SourceMap (Document)

/-! ## Options -/

namespace TransformOptions

variable {numbers : Number → Prop} {depth : Nat} {o : TransformOptions}

/-- The map of options, if there is one, can be kept where its values may be nested to a depth. -/
def Fits (numbers : Number → Prop) (depth : Nat) (o : TransformOptions) : Prop :=
  ∀ d ∈ o.inputSourceMap, d.Fits numbers depth

/-- What options are read as once they are written. -/
def reread (o : TransformOptions) : TransformOptions :=
  { o with inputSourceMap := o.inputSourceMap.map Document.reread, commentFilter := none }

/-- An optional map is read back. -/
lemma optional_writeMap (may : 0 < depth) {map : Option Document}
    (fits : ∀ d ∈ map, d.Fits Number.IsReadable depth) (rest : List Char) :
    optional (Document.read (depth + 1)) ((map.map Document.write).getD "null".toList ++ rest) =
      .ok (map.map Document.reread, rest) := by
  cases map with
  | none => exact optional_null _ rest
  | some d => exact optional_some rfl (by decide) (Document.read_write may (fits d rfl) rest)

/-- Written options are read back, wherever they stand. -/
lemma read_write (may : 0 < depth) (fits : o.Fits Number.IsReadable depth) (rest : List Char) :
    read (depth + 2) (o.write ++ rest) = .ok (o.reread, rest) := by
  obtain ⟨filename, relative, maps, root, source, target, map, comments, compact, ast, filter⟩ := o
  -- One member after the other is read, and each fills one more field of the options.
  have begun := @Fills.ofReader _ keys (field (depth + 1)) skipOther {} _ [] _ _ filename
    "filename" (fun s => { filename := s }) rfl (by decide) (by decide)
    fun rest _ => optional_writeOptionalString filename rest
  have begun := begun.append (Fills.ofReader "filenameRelative"
    (fun s => { filename, filenameRelative := s }) rfl (by decide) (by decide)
    fun rest _ => optional_writeOptionalString relative rest)
  have begun := begun.append (Fills.ofReader "sourceMaps"
    (fun b => ⟨filename, relative, b, none, none, none, none, true, false, false, none⟩) rfl
    (by decide) (by decide) fun rest _ => flag_writeBool maps rest)
  have begun := begun.append (Fills.ofReader "sourceRoot"
    (fun s => ⟨filename, relative, maps, s, none, none, none, true, false, false, none⟩) rfl
    (by decide) (by decide) fun rest _ => optional_writeOptionalString root rest)
  have begun := begun.append (Fills.ofReader "sourceFileName"
    (fun s => ⟨filename, relative, maps, root, s, none, none, true, false, false, none⟩) rfl
    (by decide) (by decide) fun rest _ => optional_writeOptionalString source rest)
  have begun := begun.append (Fills.ofReader "sourceMapTarget"
    (fun s => ⟨filename, relative, maps, root, source, s, none, true, false, false, none⟩) rfl
    (by decide) (by decide) fun rest _ => optional_writeOptionalString target rest)
  have begun := begun.append (Fills.ofReader "inputSourceMap"
    (fun d => ⟨filename, relative, maps, root, source, target, d, true, false, false, none⟩) rfl
    (by decide) (by decide) fun rest _ => optional_writeMap may fits rest)
  have begun := begun.append (Fills.ofReader "comments"
    (fun b => ⟨filename, relative, maps, root, source, target, map.map Document.reread, b, false,
      false, none⟩) rfl (by decide) (by decide) fun rest _ => flag_writeBool comments rest)
  have begun := begun.append (Fills.ofReader "compact"
    (fun b => ⟨filename, relative, maps, root, source, target, map.map Document.reread, comments, b,
      false, none⟩) rfl (by decide) (by decide) fun rest _ => flag_writeBool compact rest)
  have all := begun.append (Fills.ofReader "ast"
    (fun b => ⟨filename, relative, maps, root, source, target, map.map Document.reread, comments,
      compact, b, none⟩) rfl (by decide) (by decide) fun rest _ => flag_writeBool ast rest)
  exact (record_writeObject _ rest).trans (all.recordObject (Nat.succ_pos _) rest)

/-- Options that are read hold a map that can be kept. -/
lemma finds_read (le : depth ≤ Document.extraDepth) :
    Finds (read (depth + 2)) (Fits Number.IsStored depth) := by
  refine finds_record (fun o key fits => ?_) _ _ nofun
  unfold field
  split
  case h_7 =>
    exact (finds_optional (Document.finds_read le)).bind fun map fits => Finds.pure fits
  case h_11 => exact Finds.pure fits
  all_goals exact Finds.after fun _ => Finds.pure fits

/-- Written options are read back from their text. -/
lemma parse_toJson (fits : o.Fits Number.IsReadable (depthLimit - 2)) :
    parse o.toJson = .ok o.reread :=
  readText_ofList (read_write (by decide) fits)

/-- Options that were read from a text hold a map that can be kept. -/
lemma fits_of_parse {text : String} (h : parse text = .ok o) :
    o.Fits Number.IsStored (depthLimit - 2) :=
  finds_readText (finds_read (by decide)) h

/-- Options whose map holds no numbers but integers of 64 bits. -/
def IsWhole (o : TransformOptions) : Prop := ∀ d ∈ o.inputSourceMap, ∀ m ∈ d.extra, m.2.IsWhole

/-- Options all of whose numbers are integers are read back but for their filter. -/
lemma Fits.reread_eq (fits : o.Fits Number.IsWhole depth) :
    o.reread = { o with commentFilter := none } := by
  have same : o.inputSourceMap.map Document.reread = o.inputSourceMap := by
    cases map : o.inputSourceMap with
    | none => rfl
    | some d => exact congrArg some (fits d map).reread_eq
  rw [reread, same]

/-- A map of stored numbers all of which are integers is one of integers. -/
lemma Fits.of_isWhole (fits : o.Fits Number.IsStored depth) (whole : o.IsWhole) :
    o.Fits Number.IsWhole depth :=
  fun d mem => (fits d mem).of_isWhole (whole d mem)

/-- Options with a map of integers can be read back. -/
lemma Fits.isReadable (fits : o.Fits Number.IsWhole depth) : o.Fits Number.IsReadable depth :=
  fun d mem => (fits d mem).imp fun _ integer => integer.isStored.isReadable

end TransformOptions

/-! ## Configurations -/

namespace PipelineConfig

variable {depth : Nat} {c : PipelineConfig}

/-- A written configuration is read back, with its options as they are read back. -/
lemma read_write (may : 0 < depth) (fits : c.options.Fits Number.IsReadable depth)
    (rest : List Char) :
    read (depth + 3) (c.write ++ rest) = .ok ({ c with options := c.options.reread }, rest) := by
  obtain ⟨plugins, useHost, options⟩ := c
  have begun := @Fills.ofReader _ keys (field (depth + 2)) skipOther {} _ [] _ _ plugins
    "plugins" (fun l => { plugins := l }) rfl (by decide) (by decide)
    fun rest _ => listOf_strings plugins (Nat.succ_pos _) rest
  have begun := begun.append (Fills.ofReader "useHostResolution" (fun b => ⟨plugins, b, {}⟩) rfl
    (by decide) (by decide) fun rest _ => flag_writeBool useHost rest)
  have all := begun.append (Fills.ofReader "options" (fun o => ⟨plugins, useHost, o⟩) rfl
    (by decide) (by decide) fun rest _ => TransformOptions.read_write may fits rest)
  exact (record_writeObject _ rest).trans (all.recordObject (Nat.succ_pos _) rest)

/-- A configuration that is read holds a map that can be kept. -/
lemma finds_read (le : depth ≤ Document.extraDepth) :
    Finds (read (depth + 3)) fun c => c.options.Fits Number.IsStored depth := by
  refine finds_record (fun c key fits => ?_) _ _ nofun
  unfold field
  split
  case h_3 => exact (TransformOptions.finds_read le).bind fun options fits => Finds.pure fits
  case h_4 => exact Finds.pure fits
  all_goals exact Finds.after fun _ => Finds.pure fits

/-- A written configuration is read back from its text. -/
lemma parse_toJson (fits : c.options.Fits Number.IsReadable (depthLimit - 3)) :
    parse c.toJson = .ok { c with options := c.options.reread } :=
  readText_ofList (read_write (by decide) fits)

/-- A configuration that was read from a text holds a map that can be kept. -/
lemma fits_of_parse {text : String} (h : parse text = .ok c) :
    c.options.Fits Number.IsStored (depthLimit - 3) :=
  finds_readText (finds_read (by decide)) h

end PipelineConfig

/-! ## Files -/

/-- A written file is read back. -/
lemma OutputFile.read_write {depth : Nat} (may : 0 < depth) (f : OutputFile) (rest : List Char) :
    read depth (f.write ++ rest) = .ok (f, rest) := by
  obtain ⟨name, text, mark⟩ := f
  have entered : Enters (recordMember keys field skipOther) ⟨⟨"", "", false⟩, []⟩
      [writeMember "name" (writeString name), writeMember "text" (writeString text),
        writeMember "writeByteOrderMark" (writeBool mark)]
      ⟨⟨name, text, mark⟩, ["writeByteOrderMark", "text", "name"]⟩ := by
    refine .ofReader "name" (fun s => ⟨s, "", false⟩) rfl (by decide) (by decide)
      (fun rest _ => text_writeString name rest) ?_
    refine .ofReader "text" (fun s => ⟨name, s, false⟩) rfl (by decide) (by decide)
      (fun rest _ => text_writeString text rest) ?_
    exact .ofReader "writeByteOrderMark" (fun b => ⟨name, text, b⟩) rfl (by decide) (by decide)
      (fun rest _ => flag_writeBool mark rest) (.none _)
  have complete : ∀ key ∈ ["name", "text"], key ∈ ["writeByteOrderMark", "text", "name"] := by
    decide
  exact (record_writeObject _ rest).trans (recordObject_writeObject entered complete may)

/-- Options in whose map all numbers are integers are read back from their text, but for the comment
filter, exactly if the map can be kept: if its version is a number of 32 bits and its other keys are
in order, none of them known, with values that are not nested too deeply. So is a configuration with
such options, one level deeper. A file is always read back. -/
theorem settings_reread :
    (∀ o : TransformOptions, o.IsWhole →
      (TransformOptions.parse o.toJson = .ok { o with commentFilter := none } ↔
        o.Fits Number.IsWhole (depthLimit - 2))) ∧
    (∀ c : PipelineConfig, c.options.IsWhole →
      (PipelineConfig.parse c.toJson =
          .ok { c with options := { c.options with commentFilter := none } } ↔
        c.options.Fits Number.IsWhole (depthLimit - 3))) ∧
    ∀ f : OutputFile, OutputFile.parse f.toJson = .ok f := by
  refine ⟨fun o whole => ⟨fun h => ?_, fun fits => ?_⟩,
    fun c whole => ⟨fun h => ?_, fun fits => ?_⟩,
    fun f => readText_ofList (f.read_write (by decide))⟩
  · have stored := TransformOptions.fits_of_parse h
    exact TransformOptions.Fits.of_isWhole (o := o) stored whole
  · rw [← fits.reread_eq]
    exact TransformOptions.parse_toJson fits.isReadable
  · have stored := PipelineConfig.fits_of_parse h
    exact TransformOptions.Fits.of_isWhole (o := c.options) stored whole
  · rw [← fits.reread_eq]
    exact PipelineConfig.parse_toJson fits.isReadable

/-- Settings with a map of the least and the greatest integers in an object, with comments off and
with a filter; and a file with characters that are escaped. -/
theorem settings_reread_nested :
    let map : Document :=
      { version := 4294967295, file := some "", sourcesContent := some [none, some "\t"],
        extra := [("", .null), ("x_ids", .object
          [("least", .array [.number (.integer (-2 ^ 63))]),
            ("most", .number (.integer (2 ^ 64 - 1)))])] }
    let options : TransformOptions :=
      { filename := some "\"a\\b.js\"", sourceMaps := true, inputSourceMap := some map,
        comments := false, commentFilter := some .mapReferences }
    let config : PipelineConfig := ⟨["", "remove-debugger"], true, options⟩
    let file : OutputFile := ⟨"a.js", "\n\u2028\x01", true⟩
    options.IsWhole ∧ options.Fits Number.IsWhole (depthLimit - 2) ∧
    options.Fits Number.IsWhole (depthLimit - 3) ∧
    TransformOptions.parse options.toJson = .ok { options with commentFilter := none } ∧
    PipelineConfig.parse config.toJson =
      .ok { config with options := { options with commentFilter := none } } ∧
    OutputFile.parse file.toJson = .ok file := by
  intro map options config file
  have least : Number.IsWhole (.integer (-2 ^ 63)) := .integer (by decide) (by decide)
  have most : Number.IsWhole (.integer (2 ^ 64 - 1)) := .integer (by decide) (by decide)
  have nested : ∀ m ∈ map.extra, m.2.Within Number.IsWhole 2 := by
    refine List.forall_mem_cons.2 ⟨.null, List.forall_mem_singleton.2 (.object ?_ ?_)⟩
    · rw [Members.Ascending]
      decide
    · refine List.forall_mem_cons.2 ⟨.array ?_, List.forall_mem_singleton.2 (.number most)⟩
      exact List.forall_mem_singleton.2 (.number least)
  have ascending : map.extra.Ascending := by
    rw [Members.Ascending]
    decide
  have fits {depth : Nat} (deep : 2 ≤ depth) : options.Fits Number.IsWhole depth := by
    rintro d ⟨⟩
    have valid : map.Valid Number.IsWhole :=
      ⟨by decide, ascending, by decide, fun m mem => (nested m mem).deeper (by decide)⟩
    exact ⟨valid, fun m mem => (nested m mem).deeper deep⟩
  have whole : options.IsWhole := by
    rintro d ⟨⟩ m mem
    exact (nested m mem).isWhole
  obtain ⟨optionsReread, configReread, fileReread⟩ := settings_reread
  have inOptions : options.Fits Number.IsWhole (depthLimit - 2) := fits (by decide)
  have inConfig : options.Fits Number.IsWhole (depthLimit - 3) := fits (by decide)
  exact ⟨whole, inOptions, inConfig, (optionsReread options whole).2 inOptions,
    (configReread config whole).2 inConfig, fileReread file⟩

end ScriptMaps
