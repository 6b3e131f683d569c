import ScriptMaps.Json.Decode

/-!
# Source map documents

The contents of a map file. What drives a transformation is named; every other key is kept with its
value, so that a map can be handed on with nothing lost.
-/

namespace ScriptMaps.SourceMap

open ScriptMaps.Json

/-- The contents of a map file. -/
structure Document where
  version : Nat := 3
  file : Option String := none
  sourceRoot : Option String := none
  sources : List String := []
  sourcesContent : Option (List (Option String)) := none
  names : List String := []
  mappings : String := ""
  extra : Members := []
  deriving Repr, Inhabited

namespace Document

/-- The source a map leads back to. -/
def sourceFileName (d : Document) : Option String := d.sources.head?

/-- The keys with a meaning of their own, in the order they are written. -/
def keys : List String :=
  ["version", "file", "sourceRoot", "sources", "sourcesContent", "names", "mappings"]

/-! ## Writing -/

/-- A list of strings. -/
def writeStrings (l : List String) : List Char := writeList (l.map writeString)

/-- The member under a key, if there is a value. -/
def optionalMember {α : Type} (key : String) (write : α → List Char) : Option α → List (List Char)
  | none => []
  | some a => [writeMember key (write a)]

/-- The written members of a document. -/
def written (d : Document) : List (List Char) :=
  [writeMember "version" (toString d.version).toList]
    ++ optionalMember "file" writeString d.file
    ++ optionalMember "sourceRoot" writeString d.sourceRoot
    ++ [writeMember "sources" (writeStrings d.sources)]
    ++ optionalMember "sourcesContent" (fun l => writeList (l.map writeOptionalString))
      d.sourcesContent
    ++ [writeMember "names" (writeStrings d.names), writeMember "mappings" (writeString d.mappings)]
    ++ writeMembers d.extra

/-- A document as JSON. -/
def write (d : Document) : List Char := writeObject d.written

/-- A document as a JSON text. -/
def toJson (d : Document) : String := String.ofList d.write

/-! ## Reading -/

/-- Reads the value under a known key. -/
def field (depth : Nat) (d : Document) (key : String) : Reader Document := do
  match key with
  | "version" => return { d with version := ← Reader.natural32 }
  | "file" => return { d with file := ← Reader.optional Reader.text }
  | "sourceRoot" => return { d with sourceRoot := ← Reader.optional Reader.text }
  | "sources" => return { d with sources := ← Reader.listOf depth Reader.text }
  | "sourcesContent" =>
    let list := Reader.listOf depth (Reader.optional Reader.text)
    return { d with sourcesContent := ← Reader.optional list }
  | "names" => return { d with names := ← Reader.listOf depth Reader.text }
  | "mappings" => return { d with mappings := ← Reader.text }
  | _ => return d

/-- Reads the value under any other key, which is kept. -/
def otherField (depth : Nat) (d : Document) (key : String) : Reader Document := do
  return { d with extra := d.extra.insert key (← Reader.value depth) }

/-- Reads a document, which is always written as an object. -/
def read (depth : Nat) : Reader Document := do
  let c ← Reader.valueStart
  if c == '\x7b' then
    Reader.recordObject depth keys [] (field (depth - 1)) (otherField (depth - 1)) {}
  else Reader.refuse c "struct SourceMapDocument"

/-- Reads a text as a document. -/
def parse (text : String) : Except Fault Document := readText (read depthLimit) text

end Document

end ScriptMaps.SourceMap
