import ScriptMaps.SourceMap.Document
import ScriptMaps.Proofs.Json.Forms
import ScriptMaps.Proofs.Json.Found

/-!
# Reading back documents

A document that can be kept (`Document.Valid`) is read back from its text with the numbers under its
other keys as they are read back (`Document.parse_toJson`). If all of these are integers, it is read
back unchanged, and no other document is (`Document.parse_toJson_eq_ok_iff`).
-/

namespace ScriptMaps.SourceMap

open ScriptMaps.Json ScriptMaps.Json.Reader

namespace Document

/-- How deeply values under other keys may be nested, being inside the object of the document. -/
def extraDepth : Nat := depthLimit - 1

/-- A document that can be kept: its version is a number of 32 bits, and its other keys are in
order, are none of the known ones, and have values of numbers of one kind that are not nested too
deeply. -/
structure Valid (numbers : Number → Prop) (d : Document) : Prop where
  version : d.version < 2 ^ 32
  ascending : d.extra.Ascending
  unknown : ∀ m ∈ d.extra, m.1 ∉ keys
  within : ∀ m ∈ d.extra, m.2.Within numbers extraDepth

/-- A document that can be kept as a part of something else, where the values under its other keys
may only be nested to a depth. -/
structure Fits (numbers : Number → Prop) (depth : Nat) (d : Document) : Prop
    extends d.Valid numbers where
  nested : ∀ m ∈ d.extra, m.2.Within numbers depth

/-- A document fits in as a part where its values may be nested as deeply as in a map file. -/
lemma Valid.fits {numbers : Number → Prop} {d : Document} (valid : d.Valid numbers) :
    d.Fits numbers extraDepth := ⟨valid, valid.within⟩

/-- What a document is read as once it is written. -/
def reread (d : Document) : Document := { d with extra := Value.rereadMembers d.extra }

/-- Written members under other keys are put into a document one after the other. -/
lemma fills_writeMembers {depth : Nat} {ms : Members} {before : List String}
    (unknown : ∀ m ∈ ms, m.1 ∉ keys) (within : ∀ m ∈ ms, m.2.Within Number.IsReadable depth)
    (d : Document) :
    Fills keys (field depth) (otherField depth) before d (writeMembers ms) before
      { d with
        extra :=
          (Value.rereadMembers ms).foldl (fun found m => found.insert m.1 m.2) d.extra } := by
  induction ms generalizing d with
  | nil => exact fun found value seen => ⟨found, .none _, value, seen⟩
  | cons m ms ih =>
    have others := ih (fun m mem => unknown m (List.mem_cons_of_mem _ mem))
      (fun m mem => within m (List.mem_cons_of_mem _ mem))
      { d with extra := d.extra.insert m.1 m.2.reread }
    refine Fills.ofOther (unknown m List.mem_cons_self) (fun rest ends => ?_) others
    rw [otherField, bind_ok (value_writeValue (within m List.mem_cons_self) ends)]
    rfl

/-- A member that may be left out is read into the document if it is there. -/
lemma fills_optionalMember {α : Type} {depth : Nat} {d : Document} {before : List String}
    {other : Document → String → Reader Document} {reader : Reader (Option α)}
    {write : α → List Char} (key : String) (set : Option α → Document) (missing : set none = d)
    (step : field depth d key = reader >>= fun a => pure (set a)) (known : key ∈ keys)
    (unseen : key ∉ before) (read : ∀ a rest, reader (write a ++ rest) = .ok (some a, rest))
    (a : Option α) :
    Fills keys (field depth) other before d (optionalMember key write a) (key :: before)
      (set a) := by
  cases a with
  | none =>
    rw [missing]
    exact Fills.skipField key d
  | some a => exact Fills.ofReader key set step known unseen fun rest _ => read a rest

/-- The written members of a document are read into it. -/
lemma fills_written {depth : Nat} (may : 0 < depth) {d : Document}
    (fits : d.Fits Number.IsReadable depth) :
    ∃ seen, Fills keys (field depth) (otherField depth) [] {} d.written seen d.reread := by
  obtain ⟨version, file, sourceRoot, sources, sourcesContent, names, mappings, extra⟩ := d
  have inOrder := (ascending_rereadMembers fits.ascending).ofEntries
  have others : Fills keys (field depth) (otherField depth)
      ["mappings", "names", "sourcesContent", "sources", "sourceRoot", "file", "version"]
      ⟨version, file, sourceRoot, sources, sourcesContent, names, mappings, []⟩
      (writeMembers extra)
      ["mappings", "names", "sourcesContent", "sources", "sourceRoot", "file", "version"]
      ⟨version, file, sourceRoot, sources, sourcesContent, names, mappings,
        Value.rereadMembers extra⟩ := by
    rw [← inOrder]
    exact fills_writeMembers fits.unknown fits.nested _
  -- One member after the other is read, and each fills one more field of the document.
  have begun := @Fills.ofReader _ keys (field depth) (otherField depth) {} _ [] _ natural32 _
    "version" (fun n => { version := n }) rfl (by decide) (by decide)
    fun rest ends => natural32_toString fits.version ends
  have begun := begun.append (fills_optionalMember "file"
    (fun s => { version := version, file := s }) rfl rfl (by decide) (by decide)
    optional_writeString file)
  have begun := begun.append (fills_optionalMember "sourceRoot"
    (fun s => ⟨version, file, s, [], none, [], "", []⟩) rfl rfl (by decide) (by decide)
    optional_writeString sourceRoot)
  have begun := begun.append (Fills.ofReader "sources"
    (fun l => ⟨version, file, sourceRoot, l, none, [], "", []⟩) rfl (by decide) (by decide)
    fun rest _ => listOf_strings sources may rest)
  have begun := begun.append (fills_optionalMember "sourcesContent"
    (fun l => ⟨version, file, sourceRoot, sources, l, [], "", []⟩) rfl rfl (by decide) (by decide)
    (fun l rest => optional_listOf_strings l may rest) sourcesContent)
  have begun := begun.append (Fills.ofReader "names"
    (fun l => ⟨version, file, sourceRoot, sources, sourcesContent, l, "", []⟩) rfl (by decide)
    (by decide) fun rest _ => listOf_strings names may rest)
  have begun := begun.append (Fills.ofReader "mappings"
    (fun s => ⟨version, file, sourceRoot, sources, sourcesContent, names, s, []⟩) rfl (by decide)
    (by decide) fun rest _ => text_writeString mappings rest)
  have all := begun.append others
  simp only [List.append_assoc, List.cons_append, List.nil_append] at all
  simp only [written, List.append_assoc, List.cons_append, List.nil_append]
  exact ⟨_, all⟩

/-- A written document is read back with its numbers as they are read back, wherever it stands. -/
lemma read_write {depth : Nat} (may : 0 < depth) {d : Document}
    (fits : d.Fits Number.IsReadable depth) (rest : List Char) :
    read (depth + 1) (d.write ++ rest) = .ok (d.reread, rest) := by
  obtain ⟨seen, fills⟩ := fills_written may fits
  have object := fills.recordObject (Nat.succ_pos depth) rest
  change (valueStart >>= fun c => if c == '{' then _ else _) ('{' :: _) = _
  rw [bind_ok (valueStart_cons rfl)]
  exact object

/-- A written document is read back with its numbers as they are read back. -/
lemma parse_toJson {d : Document} (valid : d.Valid Number.IsReadable) :
    parse d.toJson = .ok d.reread :=
  readText_ofList (read_write (by decide) valid.fits)

/-- A document all of whose numbers are integers is read back as it is. -/
lemma Valid.reread_eq {d : Document} (valid : d.Valid Number.IsWhole) : d.reread = d := by
  have extra : Value.rereadMembers d.extra = d.extra :=
    Value.rereadMembers_eq fun m mem => (valid.within m mem).isWhole
  rw [reread, extra]

/-- A document of one kind of numbers is one of a wider kind. -/
lemma Valid.imp {p q : Number → Prop} (wider : ∀ n, p n → q n) {d : Document} (valid : d.Valid p) :
    d.Valid q :=
  ⟨valid.version, valid.ascending, valid.unknown, fun m mem => (valid.within m mem).imp wider⟩

/-- A document that fits in with one kind of numbers does so with a wider kind. -/
lemma Fits.imp {p q : Number → Prop} (wider : ∀ n, p n → q n) {depth : Nat} {d : Document}
    (fits : d.Fits p depth) : d.Fits q depth :=
  ⟨fits.toValid.imp wider, fun m mem => (fits.nested m mem).imp wider⟩

/-- A document of stored numbers all of which are integers is one of integers. -/
lemma Fits.of_isWhole {depth : Nat} {d : Document} (fits : d.Fits Number.IsStored depth)
    (whole : ∀ m ∈ d.extra, m.2.IsWhole) : d.Fits Number.IsWhole depth where
  version := fits.version
  ascending := fits.ascending
  unknown := fits.unknown
  within m mem := (fits.within m mem).of_isWhole (whole m mem)
  nested m mem := (fits.nested m mem).of_isWhole (whole m mem)

/-! ## Documents that are read -/

/-- A document stays one that can be kept if its version and its other keys stay. -/
lemma Valid.of_eq {numbers : Number → Prop} {d d' : Document} (valid : d.Valid numbers)
    (version : d'.version = d.version) (extra : d'.extra = d.extra) : d'.Valid numbers where
  version := version ▸ valid.version
  ascending := extra ▸ valid.ascending
  unknown := extra ▸ valid.unknown
  within := extra ▸ valid.within

/-- A document with a value put under another key can be kept. -/
lemma Valid.insert {numbers : Number → Prop} {d : Document} (valid : d.Valid numbers)
    {key : String} (unknown : key ∉ keys) {v : Value} (within : v.Within numbers extraDepth) :
    Valid numbers { d with extra := d.extra.insert key v } where
  version := valid.version
  ascending := valid.ascending.insert
  unknown m mem := by
    obtain rfl | mem := Members.mem_insert mem
    · exact unknown
    · exact valid.unknown m mem
  within m mem := by
    obtain rfl | mem := Members.mem_insert mem
    · exact within
    · exact valid.within m mem

/-- What is read under a known key leaves a document that can be kept. -/
lemma finds_field (depth : Nat) (key : String) {d : Document}
    (fits : d.Fits Number.IsStored depth) :
    Finds (field depth d key) (Fits Number.IsStored depth) := by
  unfold field
  split
  case h_1 =>
    refine finds_natural32.bind fun version small => Finds.pure ?_
    exact ⟨⟨small, fits.ascending, fits.unknown, fits.within⟩, fits.nested⟩
  case h_8 => exact Finds.pure fits
  all_goals exact Finds.after fun _ => Finds.pure ⟨fits.of_eq rfl rfl, fits.nested⟩

/-- What is read under another key leaves a document that can be kept. -/
lemma finds_otherField {depth : Nat} (le : depth ≤ extraDepth) {key : String}
    (unknown : key ∉ keys) {d : Document} (fits : d.Fits Number.IsStored depth) :
    Finds (otherField depth d key) (Fits Number.IsStored depth) := by
  refine (finds_value depth).bind fun v within => Finds.pure ?_
  refine ⟨fits.insert unknown (within.deeper le), fun m mem => ?_⟩
  obtain rfl | mem := Members.mem_insert mem
  · exact within
  · exact fits.nested m mem

/-- A document that is read can be kept, wherever it stands. -/
lemma finds_read {depth : Nat} (le : depth ≤ extraDepth) :
    Finds (read (depth + 1)) (Fits Number.IsStored depth) := by
  have empty : Fits Number.IsStored depth {} :=
    ⟨⟨by decide, List.Pairwise.nil, nofun, nofun⟩, nofun⟩
  refine Finds.after fun c => ?_
  split
  case isTrue =>
    exact finds_recordObject (fun d key => finds_field depth key)
      (fun d key unknown => finds_otherField le unknown) _ empty
  case isFalse => exact finds_refuse _ _ _

/-- A document that is read can be kept. -/
lemma valid_of_parse {text : String} {d : Document} (h : parse text = .ok d) :
    d.Valid Number.IsStored :=
  (finds_readText (finds_read (Nat.le_refl extraDepth)) h).toValid

/-! ## Documents of integers -/

/-- A document all of whose numbers are integers is read back from its text exactly if it can be
kept: if its version is a number of 32 bits and its other keys are in order, none of them known,
with values that are not nested too deeply. -/
theorem parse_toJson_eq_ok_iff {d : Document} (whole : ∀ m ∈ d.extra, m.2.IsWhole) :
    parse d.toJson = .ok d ↔ d.Valid Number.IsWhole := by
  constructor
  · intro h
    have stored := valid_of_parse h
    exact ⟨stored.version, stored.ascending, stored.unknown,
      fun m mem => (stored.within m mem).of_isWhole (whole m mem)⟩
  · intro valid
    have readable := valid.imp fun n integer => integer.isStored.isReadable
    exact (parse_toJson readable).trans (congrArg Except.ok valid.reread_eq)

/-- A document with everything that may be absent, empty or escaped, and with the least and the
greatest integers inside a list inside an object. -/
theorem parse_toJson_eq_ok_iff_nested :
    let d : Document :=
      { version := 4294967295, file := some "", sources := ["\"\\/\x01\n😀é"],
        sourcesContent := some [none, some "", some "\t"], mappings := "AAAA;,",
        extra := [("", .null), ("debug\nId", .object
          [("least", .array [.number (.integer (-2 ^ 63)), .array []]),
            ("most", .number (.integer (2 ^ 64 - 1)))]), ("x_flag", .bool true)] }
    (∀ m ∈ d.extra, m.2.IsWhole) ∧ d.Valid Number.IsWhole ∧ parse d.toJson = .ok d := by
  intro d
  have least : Number.IsWhole (.integer (-2 ^ 63)) := .integer (by decide) (by decide)
  have most : Number.IsWhole (.integer (2 ^ 64 - 1)) := .integer (by decide) (by decide)
  have numbers :
      Value.Within Number.IsWhole 2 (.array [.number (.integer (-2 ^ 63)), .array []]) := by
    refine .array (List.forall_mem_cons.2 ⟨.number least, List.forall_mem_singleton.2 ?_⟩)
    exact .array nofun
  have object : Value.Within Number.IsWhole 3 (.object
      [("least", .array [.number (.integer (-2 ^ 63)), .array []]),
        ("most", .number (.integer (2 ^ 64 - 1)))]) := by
    refine .object ?_ (List.forall_mem_cons.2 ⟨numbers, List.forall_mem_singleton.2 (.number most)⟩)
    rw [Members.Ascending]
    decide
  have valid : d.Valid Number.IsWhole := by
    refine ⟨by decide, ?_, by decide, ?_⟩
    · rw [Members.Ascending]
      decide
    · refine List.forall_mem_cons.2 ⟨.null, List.forall_mem_cons.2 ⟨object.deeper (by decide), ?_⟩⟩
      exact List.forall_mem_singleton.2 .bool
  have whole : ∀ m ∈ d.extra, m.2.IsWhole := fun m mem => (valid.within m mem).isWhole
  exact ⟨whole, valid, (parse_toJson_eq_ok_iff whole).2 valid⟩

end Document

end ScriptMaps.SourceMap
