import ScriptMaps.SourceMap.Document
import ScriptMaps.SourceMap.DebugId
import ScriptMaps.SourceMap.Segment

/-!
# Keys of a map with a form of their own

Some keys of a map that a document only keeps have a meaning for whoever reads segments, and so a
form that their values must have. Among them are the sections of a map that is made of others: each
holds a map, whose keys have forms too.

A record is an object, or a list of the values of its members in a fixed order. A value that is
missing counts as null.
-/

namespace ScriptMaps.SourceMap

open ScriptMaps.Json

/-- What a value has to be. -/
abbrev Form := Value → Bool

namespace Form

/-- Any value. -/
def any : Form := fun _ => true

/-- A string. -/
def string : Form
  | .string _ => true
  | _ => false

/-- The number a value is, if that is an integer of 32 bits without sign. -/
def natural32? : Value → Option Nat
  | .number (.integer n) => if 0 ≤ n && n ≤ 0xffffffff then some n.toNat else none
  | _ => none

/-- An integer of 32 bits without sign. -/
def natural32 : Form := fun v => (natural32? v).isSome

/-- A debug identifier. -/
def debugId : Form
  | .string s => (DebugId.parse? s).isSome
  | _ => false

/-- A list of values of a form. -/
def listOf (form : Form) : Form
  | .array elems => elems.all form
  | _ => false

/-- Null, or a value of a form. -/
def optional (form : Form) : Form
  | .null => true
  | v => form v

/-- The members of a record with the given keys, if a value is one. -/
def members? (keys : List String) : Value → Option Members
  | .object members => some members
  | .array elems => if elems.length == keys.length then some (keys.zip elems) else none
  | _ => none

/-- The value under a key, or null. -/
def under (members : Members) (key : String) : Value := (members.find? key).getD .null

/-- Whether members have the forms of their keys. -/
def fit (forms : List (String × Form)) (members : Members) : Bool :=
  forms.all fun (key, form) => form (under members key)

/-- A record whose members have given forms. -/
def record (forms : List (String × Form)) : Form := fun v =>
  ((members? (forms.map (·.1)) v).map (fit forms)).getD false

/-- Where the code of a section begins. -/
def offset : Form := record [("line", natural32), ("column", natural32)]

/-- The scopes of a source. -/
def scopes : Form := listOf (record [("names", listOf string), ("mappings", string)])

/-- The keys of a section. -/
def sectionKeys : List String := ["offset", "url", "map"]

/-- The keys of a map with forms of their own, besides those of a document; `inner` is the form of
the maps of its sections. -/
def extraForms (inner : Form) : List (String × Form) :=
  [("sections", optional (listOf (record (sectionKeys.zip [offset, optional string, inner])))),
   ("rangeMappings", optional string),
   ("ignoreList", optional (listOf natural32)),
   ("x_facebook_offsets", optional (listOf (optional natural32))),
   ("x_metro_module_paths", optional (listOf string)),
   ("x_facebook_sources", optional (listOf (optional scopes))),
   ("debugId", optional debugId),
   ("debug_id", optional debugId)]

/-- The keys that a map in a section shares with documents, which may all be missing there. -/
def ownForms : List (String × Form) :=
  [("version", optional natural32),
   ("file", any),
   ("sources", optional (listOf (optional string))),
   ("sourceRoot", optional string),
   ("sourcesContent", optional (listOf (optional string))),
   ("names", optional (listOf any)),
   ("mappings", optional string)]

/-- The forms of the keys of a map in a section, with sections of its own up to a depth. -/
def innerForms : Nat → List (String × Form)
  | 0 => ownForms ++ extraForms fun _ => false
  | depth + 1 => ownForms ++ extraForms (optional (record (innerForms depth)))

/-- The keys of a map in a section. -/
def innerKeys : List String := (innerForms 0).map (·.1)

end Form

/-- Whether the keys of a document with a form of their own have it. -/
def isWellFormed (extra : Members) : Bool :=
  Form.fit (Form.extraForms (Form.optional (Form.record (Form.innerForms depthLimit)))) extra

/-- The maps of the sections that members tell of, if they tell of sections. -/
def sectionMaps? (members : Members) : Option (List Members) :=
  match Form.under members "sections" with
  | .array sections =>
    let maps := sections.map fun s =>
      match Form.members? Form.sectionKeys s with
      | some members => Form.members? Form.innerKeys (Form.under members "map")
      | none => none
    some maps.reduceOption
  | _ => none

/-- The text under a key, or none at all. -/
def textUnder (members : Members) (key : String) : String :=
  match Form.under members key with
  | .string s => s
  | _ => ""

/-- The length of the list under a key. -/
def countUnder (members : Members) (key : String) : Nat :=
  match Form.under members key with
  | .array elems => elems.length
  | _ => 0

/-- Checks that the segments of a map in a section can be read, or those of its own sections, up to
a depth. -/
def checkSegments : Nat → Members → Except MapCause Unit
  | 0, _ => .error .badJson
  | depth + 1, members => do
    match sectionMaps? members with
    | some maps => maps.forM (checkSegments depth)
    | none =>
      let _ ← Segment.decode (countUnder members "sources") (countUnder members "names")
        (textUnder members "mappings") (textUnder members "rangeMappings")

/-- The segments of a document. One made of sections has none of its own, and one that tells of the
scopes of its sources is no plain map; both are refused once all segments are found readable. -/
def Document.segments (d : Document) : Except MapCause (List Segment) := do
  if !isWellFormed d.extra then throw .badJson
  match sectionMaps? d.extra with
  | some maps =>
    maps.forM (checkSegments depthLimit)
    throw .incompatible
  | none =>
    let segments ← Segment.decode d.sources.length d.names.length d.mappings
      (textUnder d.extra "rangeMappings")
    match Form.under d.extra "x_facebook_sources" with
    | .null => return segments
    | _ => throw .incompatible

end ScriptMaps.SourceMap
