import ScriptMaps.Proofs.Json.Agreeing
import ScriptMaps.Proofs.SourceMap.Documents

/-!
# Rewriting documents

What a document has under each key is what the text it was read from has there, but for nulls that
count as no value and for members that every document has (`Document.agrees_read`). Its own text has
there what the document has (`Document.written_eq`). So a text that is read as a document and
written again is completed, and nothing else about it changes (`Document.parse_toJson_completed`).
-/

namespace ScriptMaps.SourceMap.Document

open ScriptMaps.Json ScriptMaps.Json.Reader

/-! ## Objects as documents keep them -/

/-- The keys under which null counts as no value. -/
def optionalKeys : List String := ["file", "sourceRoot", "sourcesContent"]

/-- The members every document has, with the values they have if nothing else is said. -/
def defaults : Members :=
  [("version", .number (.integer 3)), ("sources", .array []), ("names", .array []),
    ("mappings", .string "")]

/-- Whether a member is more than a null that counts as no value. -/
def isKept : String × Value → Bool
  | (key, .null) => !optionalKeys.contains key
  | _ => true

/-- The members of an object without nulls that count as no value and with those that every document
has. -/
def completed (ms : Members) : Members :=
  defaults.foldl (fun found m => found.insertNew m.1 m.2) (ms.filter isKept)

/-- What a document has under a key under which a value, or none, was found. -/
def settled (key : String) (found : Option Value) : Option Value :=
  (found.filter fun v => isKept (key, v)).or (defaults.find? key)

section Settled

variable {key : String} {ms : Members}

/-- Under a key that is not known a document has what was found. -/
lemma settled_of_unknown (unknown : key ∉ keys) (found : Option Value) :
    settled key found = found := by
  have missing : defaults.find? key = none := by
    apply Members.find?_eq_none
    rintro m mem rfl
    exact unknown ((by decide : ∀ m ∈ defaults, m.1 ∈ keys) m mem)
  have kept (v : Value) : isKept (key, v) = true := by
    unfold isKept
    split
    case h_1 same =>
      cases same
      have subset : optionalKeys ⊆ keys := by decide
      simpa using fun mem => unknown (subset mem)
    case h_2 => rfl
  unfold settled
  rw [missing, Option.or_none]
  cases found with
  | none => rfl
  | some v => exact if_pos (kept v)

/-- In a completed object those values are found that a document has. -/
lemma find?_completed (h : ms.Ascending) (key : String) :
    (completed ms).find? key = settled key (ms.find? key) := by
  unfold completed settled
  rw [Members.find?_foldl_insertNew, h.find?_filter]

/-- A completed object has its keys in order. -/
lemma ascending_completed (h : ms.Ascending) : (completed ms).Ascending := by
  have put : ∀ (ms base : Members), base.Ascending →
      Members.Ascending (ms.foldl (fun found m => found.insertNew m.1 m.2) base) := by
    intro ms
    induction ms with
    | nil => exact fun base h => h
    | cons m ms ih => exact fun base h => ih _ h.insertNew
  exact put defaults _ (List.Pairwise.filter _ h)

end Settled

/-! ## Members of documents -/

/-- The value a document has under a key. -/
def member? (d : Document) (key : String) : Option Value :=
  match key with
  | "version" => some (.number (.integer d.version))
  | "file" => d.file.map .string
  | "sourceRoot" => d.sourceRoot.map .string
  | "sources" => some (.array (d.sources.map .string))
  | "sourcesContent" =>
    d.sourcesContent.map fun l => .array (l.map fun s => (s.map .string).getD .null)
  | "names" => some (.array (d.names.map .string))
  | "mappings" => some (.string d.mappings)
  | _ => d.extra.find? key

/-- The members of a document in the order they are written. -/
def members (d : Document) : Members :=
  keys.filterMap (fun key => (d.member? key).map (key, ·)) ++ d.extra

section Members

variable {d : Document} {key : String}

/-- Under a key that is not known a document has what was kept for it. -/
lemma member?_of_unknown (unknown : key ∉ keys) (d : Document) :
    d.member? key = d.extra.find? key := by
  unfold member?
  split
  case h_8 => rfl
  all_goals exact absurd (by decide) unknown

/-- Among members under given keys those are found whose key is given. -/
lemma find?_filterMap (found : String → Option Value) (ks : List String) (key : String) :
    Members.find? (ks.filterMap fun key => (found key).map (key, ·)) key =
      if key ∈ ks then found key else none := by
  induction ks with
  | nil => rfl
  | cons k ks ih =>
    by_cases same : key = k
    · subst same
      rw [if_pos List.mem_cons_self, List.filterMap_cons]
      cases there : found key with
      | none =>
        rw [there] at ih
        exact ih.trans (ite_self none)
      | some v => exact (Members.find?_cons _ _ _ _).trans (if_pos rfl)
    · have mem : key ∈ k :: ks ↔ key ∈ ks := by simp [same]
      rw [if_congr mem rfl rfl, ← ih, List.filterMap_cons]
      cases found k with
      | none => rfl
      | some v => exact (Members.find?_cons _ _ _ _).trans (if_neg same)

/-- The written members of a document are read as those it has. -/
lemma find?_ofEntries_members {numbers : Number → Prop} (valid : d.Valid numbers) (key : String) :
    (Members.ofEntries d.members).find? key = d.member? key := by
  have extra : Members.find? d.extra.reverse key = d.extra.find? key := by
    rw [← Members.find?_ofEntries, valid.ascending.ofEntries]
  unfold members
  rw [Members.find?_ofEntries, List.reverse_append, Members.find?_append, extra,
    ← List.filterMap_reverse, find?_filterMap, if_congr List.mem_reverse rfl rfl]
  by_cases known : key ∈ keys
  · have missing : d.extra.find? key = none := by
      apply Members.find?_eq_none
      rintro m mem rfl
      exact valid.unknown m mem known
    rw [missing, if_pos known, Option.none_or]
  · rw [if_neg known, Option.or_none, member?_of_unknown known]

end Members

/-! ## Reading -/

section Reading

variable {d : Document} {key : String} {α : Type}

/-- A document has under a key what is read there, and under all others what it had. -/
def Takes (d : Document) (key : String) (d' : Document) (v : Value) : Prop :=
  d'.member? key = settled key (some v) ∧ ∀ other ≠ key, d'.member? other = d.member? other

/-- A value that is read in a form and put into its place is also read as a value. -/
lemma agrees_set {reader : Reader α} {form : α → Value} {set : α → Document}
    (reads : ReadsAs reader extraDepth form)
    (takes : ∀ a, Takes d key (set a) (form a)) :
    Agrees (reader >>= fun a => pure (set a)) (value extraDepth) (Takes d key) := by
  intro text d' rest run
  obtain ⟨a, left, first, run⟩ := bind_eq_ok.1 run
  obtain ⟨v, read, rfl⟩ := reads _ _ _ first
  cases run
  exact ⟨_, read, takes a⟩

/-- The value under a known key is read as a value, and into the place of the document it is for. -/
lemma agrees_field (d : Document) : ∀ key ∈ keys,
    Agrees (field extraDepth d key) (value extraDepth) (Takes d key) := by
  have string := readsAs_text extraDepth
  have strings : ReadsAs (listOf extraDepth text) extraDepth fun l => .array (l.map .string) :=
    (readsAs_text _).listOf
  have contents :
      ReadsAs (Reader.optional (listOf extraDepth (Reader.optional text))) extraDepth _ :=
    (readsAs_text _).optional.listOf.optional
  simp only [keys, List.forall_mem_cons]
  refine ⟨agrees_set (readsAs_natural32 _) fun n => ⟨rfl, ?_⟩,
    agrees_set string.optional fun s => ⟨by cases s <;> rfl, ?_⟩,
    agrees_set string.optional fun s => ⟨by cases s <;> rfl, ?_⟩,
    agrees_set strings fun l => ⟨rfl, ?_⟩,
    agrees_set contents fun l => ⟨by cases l <;> rfl, ?_⟩,
    agrees_set strings fun l => ⟨rfl, ?_⟩, agrees_set string fun s => ⟨rfl, ?_⟩, nofun⟩
  all_goals
    intro other different
    unfold member?
    split <;> first | rfl | exact absurd rfl different

/-- The value under a key that is not known is kept as the value it is. -/
lemma agrees_otherField (d : Document) (unknown : key ∉ keys) :
    Agrees (otherField extraDepth d key) (value extraDepth) (Takes d key) := by
  intro text d' rest run
  obtain ⟨v, left, read, run⟩ := bind_eq_ok.1 run
  cases run
  refine ⟨v, read, ?_, fun other different => ?_⟩
  · rw [member?_of_unknown unknown, settled_of_unknown unknown]
    exact Members.find?_insert_self key v d.extra
  · unfold member?
    split
    case h_8 => exact Members.find?_insert_of_ne different
    all_goals rfl

/-- What was read of an object gives what a document has under each key. -/
def Reflects (d : Document) (ms : Members) : Prop :=
  ∀ key, d.member? key = settled key (ms.find? key)

/-- A document without any member read reflects the empty object. -/
lemma reflects_nothing : Reflects {} [] := by
  intro key
  by_cases known : key ∈ keys
  · simp only [keys, List.mem_cons, List.not_mem_nil, or_false] at known
    rcases known with rfl | rfl | rfl | rfl | rfl | rfl | rfl <;> rfl
  · exact (member?_of_unknown known {}).trans (settled_of_unknown known _).symm

/-- A document that takes in a member reflects an object with that member in front. -/
lemma Takes.reflects {d' : Document} {v : Value} {ms : Members} (takes : Takes d key d' v)
    (h : Reflects d ms) : Reflects d' ((key, v) :: ms) := by
  obtain ⟨taken, others⟩ := takes
  intro other
  rw [Members.find?_cons]
  by_cases same : other = key
  · rw [if_pos same, same, taken]
  · rw [if_neg same, others other same, h other]

/-- Each member of a document is read as a member of an object that the document reflects. -/
lemma agrees_member (found : Partial Document) (ms : Members) (key : String)
    (h : Reflects found.value ms) :
    Agrees (recordMember keys (field extraDepth) (otherField extraDepth) found key)
      (valueMember (value extraDepth) ms key) fun found ms => Reflects found.value ms := by
  unfold recordMember valueMember
  dsimp only
  split
  case isTrue known =>
    have known : key ∈ keys := by simpa using known
    split
    case isTrue => exact .failAfter_bind _ _ _ _
    case isFalse =>
      refine .after _ fun _ => (agrees_field found.value key known).bind fun d' v takes => ?_
      exact .pure (takes.reflects h)
  case isFalse unknown =>
    have unknown : key ∉ keys := by simpa using unknown
    refine .after _ fun _ => (agrees_otherField found.value unknown).bind fun d' v takes => ?_
    exact .pure (takes.reflects h)

/-- What is read as a document is read as an object that gives what the document has. -/
lemma agrees_read : Agrees (read depthLimit) (value depthLimit) fun d v =>
    ∃ ms : Members, v = .object ms ∧ ms.Ascending ∧ Reflects d ms := by
  apply agrees_valueStart
  intro c tail d rest run visible
  split at run
  case isTrue brace =>
    obtain rfl : c = '{' := beq_iff_eq.1 brace
    have object := agrees_recordObject agrees_member depthLimit reflects_nothing
    obtain ⟨entries, found, seen, reflects⟩ := object _ _ _ run
    refine ⟨.object (Members.ofEntries entries.reverse), ?_, _, rfl, ?_, fun key => ?_⟩
    · change (Reader.object depthLimit (valueMember (value extraDepth)) [] >>= fun entries =>
        pure (Value.object (Members.ofEntries entries.reverse))) ('{' :: tail) = _
      exact bind_eq_ok.2 ⟨entries, rest, found, rfl⟩
    · exact (Members.ofEntries_spec _).1
    · rw [Members.find?_ofEntries, List.reverse_reverse]
      exact reflects key
  case isFalse => exact (refuse_ne_ok _ _ run).elim

end Reading

/-! ## Writing -/

section Writing

variable {d : Document} {α : Type}

/-- Members that follow each other are written one after the other. -/
lemma writeMembers_append (ms ms' : Members) :
    writeMembers (ms ++ ms') = writeMembers ms ++ writeMembers ms' := by
  induction ms with
  | nil => rfl
  | cons m ms ih => exact congrArg (_ :: ·) ih

/-- Members under given keys are written key by key, where there is a value. -/
lemma writeMembers_filterMap (found : String → Option Value) (ks : List String) :
    writeMembers (ks.filterMap fun key => (found key).map (key, ·)) =
      ks.flatMap fun key => optionalMember key writeValue (found key) := by
  induction ks with
  | nil => rfl
  | cons k ks ih =>
    rw [List.filterMap_cons, List.flatMap_cons, ← ih]
    cases found k with
    | none => rfl
    | some v => rfl

/-- A member that is there is written. -/
lemma optionalMember_some (key : String) (write : α → List Char) (a : α) :
    optionalMember key write (some a) = [writeMember key (write a)] := rfl

/-- A member is written alike in a form and as the value that stands for it. -/
lemma optionalMember_map {write : α → List Char} {form : α → Value}
    (same : ∀ a, writeValue (form a) = write a) (key : String) (a : Option α) :
    optionalMember key writeValue (a.map form) = optionalMember key write a := by
  cases a with
  | none => rfl
  | some a => exact congrArg (fun text => [writeMember key text]) (same a)

/-- What is written of a document are its members. -/
lemma written_eq (d : Document) : d.written = writeMembers d.members := by
  have version : writeValue (.number (.integer d.version)) = (toString d.version).toList := rfl
  have string (s : String) : writeValue (.string s) = writeString s := rfl
  have strings (l : List String) : writeValue (.array (l.map .string)) = writeStrings l := by
    rw [writeStrings, writeValue, writeElements_eq_map, List.map_map]
    rfl
  have contents (l : List (Option String)) :
      writeValue (.array (l.map fun s => (s.map .string).getD .null)) =
        writeList (l.map writeOptionalString) := by
    rw [writeValue, writeElements_eq_map, List.map_map]
    refine congrArg writeList (List.map_congr_left fun s _ => ?_)
    cases s <;> rfl
  unfold members
  rw [writeMembers_append, writeMembers_filterMap]
  refine congrArg (· ++ writeMembers d.extra) ?_
  simp only [keys, member?, List.flatMap_cons, List.flatMap_nil, optionalMember_map string,
    optionalMember_map contents, optionalMember_some, version, string, strings]
  simp only [List.append_assoc, List.nil_append, List.append_nil, List.cons_append]

/-- The members of a document that can be kept are values that can. -/
lemma within_members (valid : d.Valid Number.IsWhole) :
    ∀ m ∈ d.members, m.2.Within Number.IsWhole extraDepth := by
  have strings (l : List String) :
      Value.Within Number.IsWhole extraDepth (.array (l.map .string)) := by
    apply Value.Within.array
    intro v mem
    obtain ⟨s, _, rfl⟩ := List.mem_map.1 mem
    exact .string
  have mapped {α : Type} {form : α → Value} (a : Option α)
      (each : ∀ a, (form a).Within Number.IsWhole extraDepth) :
      ∀ v ∈ a.map form, v.Within Number.IsWhole extraDepth := by
    intro v mem
    obtain ⟨a, _, rfl⟩ := Option.mem_map.1 mem
    exact each a
  have contents (l : List (Option String)) : Value.Within Number.IsWhole extraDepth
      (.array (l.map fun s => (s.map .string).getD .null)) := by
    apply Value.Within.array
    intro v mem
    obtain ⟨s, _, rfl⟩ := List.mem_map.1 mem
    cases s with
    | none => exact .null
    | some s => exact .string
  have version : Number.IsWhole (.integer d.version) :=
    have small := valid.version
    .integer (by omega) (by omega)
  have known : ∀ key ∈ keys, ∀ v ∈ d.member? key, v.Within Number.IsWhole extraDepth := by
    simp only [keys, List.forall_mem_cons]
    refine ⟨?_, mapped d.file fun s => .string, mapped d.sourceRoot fun s => .string, ?_,
      mapped d.sourcesContent contents, ?_, ?_, nofun⟩
    all_goals rintro v ⟨⟩
    · exact .number version
    · exact strings d.sources
    · exact strings d.names
    · exact .string
  intro m mem
  rcases List.mem_append.1 mem with mem | mem
  · obtain ⟨key, isKnown, there⟩ := List.mem_filterMap.1 mem
    obtain ⟨v, found, rfl⟩ := Option.map_eq_some_iff.1 there
    exact known key isKnown v found
  · exact valid.within m mem

/-- A written document is read as the object of its members. -/
lemma parse_value_toJson (valid : d.Valid Number.IsWhole) :
    Json.parse d.toJson = .ok (.object (Members.ofEntries d.members)) := by
  have within := within_members valid
  have same := Value.rereadMembers_eq fun m mem => (within m mem).isWhole
  have each (m : String × Value) (mem : m ∈ d.members) (rest : List Char) (ends : EndsValue rest) :=
    value_writeValue ((within m mem).imp fun n integer => integer.isStored.isReadable) ends
  have entered := enters_writeMembers each []
  rw [same, List.append_nil, ← written_eq] at entered
  have object := @object_writeObject _ _ _ _ _ [] (extraDepth + 1) entered (by decide)
  have read : value depthLimit d.toJson.toList =
      .ok (.object (Members.ofEntries d.members), []) := by
    rw [toJson, String.toList_ofList, write, ← List.append_nil (writeObject d.written)]
    refine (value_object extraDepth d.written []).trans ?_
    rw [bind_ok object, List.reverse_reverse]
    rfl
  unfold Json.parse readText
  dsimp only
  rw [bind_ok read]
  rfl

end Writing

/-! ## Reading and writing -/

section Completed

variable {d : Document} {ms : Members}

/-- What a document was read from has what the document has under other keys. -/
lemma Reflects.mem {m : String × Value} (h : Reflects d ms) {numbers : Number → Prop}
    (valid : d.Valid numbers) (mem : m ∈ d.extra) : m ∈ ms := by
  have unknown := valid.unknown m mem
  have there : d.member? m.1 = some m.2 := by
    rw [member?_of_unknown unknown]
    exact valid.ascending.find?_of_mem mem
  rw [h m.1, settled_of_unknown unknown] at there
  exact Members.mem_of_find? there

/-- The members of a document are those of the object it reflects, completed. -/
lemma Reflects.completed (h : Reflects d ms) (ascending : ms.Ascending) {numbers : Number → Prop}
    (valid : d.Valid numbers) : Members.ofEntries d.members = completed ms := by
  refine (Members.ofEntries_spec _).1.ext (ascending_completed ascending) fun key => ?_
  rw [find?_ofEntries_members valid, find?_completed ascending, h key]

end Completed

/-- A text that is read as a document is an object. If all its numbers are integers, the document is
written as that object completed, and nothing else about it changes, and what is written is written
again as it is. -/
theorem parse_toJson_completed {text : String} {d : Document} (read : parse text = .ok d) :
    ∃ ms : Members, Json.parse text = .ok (.object ms) ∧
      ((Value.object ms).IsWhole →
        Json.parse d.toJson = .ok (.object (completed ms)) ∧
          ∃ d', parse d.toJson = .ok d' ∧ d'.toJson = d.toJson) := by
  obtain ⟨_, value, ms, rfl, ascending, reflects⟩ := agrees_readText agrees_read read
  refine ⟨ms, value, fun whole => ?_⟩
  have stored := valid_of_parse read
  have each : ∀ m ∈ d.extra, m.2.IsWhole := by
    intro m mem
    cases whole with
    | object each => exact each m (reflects.mem stored mem)
  have valid : d.Valid Number.IsWhole :=
    ⟨stored.version, stored.ascending, stored.unknown,
      fun m mem => (stored.within m mem).of_isWhole (each m mem)⟩
  constructor
  · rw [parse_value_toJson valid, reflects.completed ascending valid]
  · have readable := valid.imp fun n integer => integer.isStored.isReadable
    exact ⟨d.reread, parse_toJson readable, congrArg toJson valid.reread_eq⟩

/-- A text with a null that counts as no value, with one that does not, with a key that is there
twice and with keys that are missing. -/
theorem parse_toJson_completed_repeated :
    let text := "\x7b\"x\":true,\"file\":null,\"x\":[-1,\x7b\"b\":null\x7d],\"mappings\":\"A\"\x7d"
    let x := Value.array [.number (.integer (-1)), .object [("b", .null)]]
    let ms : Members := [("file", .null), ("mappings", .string "A"), ("x", x)]
    let d : Document := { mappings := "A", extra := [("x", x)] }
    parse text = .ok d ∧ Json.parse text = .ok (.object ms) ∧ (Value.object ms).IsWhole ∧
      Json.parse d.toJson = .ok (.object [("mappings", .string "A"), ("names", .array []),
        ("sources", .array []), ("version", .number (.integer 3)), ("x", x)]) ∧
      ∃ d', parse d.toJson = .ok d' ∧ d'.toJson = d.toJson := by
  intro text x ms d
  have read : parse text = .ok d := by
    unfold text d x
    rfl
  have value : Json.parse text = .ok (.object ms) := by
    unfold text ms x
    rfl
  have one : Value.IsWhole (.number (.integer (-1))) := .number (.integer (by decide) (by decide))
  have b : Value.IsWhole (.object [("b", .null)]) := .object (List.forall_mem_singleton.2 .null)
  have list : x.IsWhole := .array (List.forall_mem_cons.2 ⟨one, List.forall_mem_singleton.2 b⟩)
  have whole : (Value.object ms).IsWhole := by
    refine .object (List.forall_mem_cons.2 ⟨.null, List.forall_mem_cons.2 ⟨.string, ?_⟩⟩)
    exact List.forall_mem_singleton.2 list
  obtain ⟨ms', value', written⟩ := parse_toJson_completed read
  obtain rfl : ms' = ms := Value.object.inj (Except.ok.inj (value'.symm.trans value))
  obtain ⟨value', again⟩ := written whole
  have result : completed ms = [("mappings", .string "A"), ("names", .array []),
      ("sources", .array []), ("version", .number (.integer 3)), ("x", x)] := by
    unfold ms x
    rfl
  exact ⟨read, value, whole, result ▸ value', again⟩

end ScriptMaps.SourceMap.Document
