import ScriptMaps.Files.Name
import ScriptMaps.Json.Decode

/-!
# Output files

The files a compiler hands over: a name, a text, and whether the text is written with a byte order
mark, which is carried along.
-/

namespace ScriptMaps

open ScriptMaps.Json

/-- A named text. -/
structure OutputFile where
  name : String
  text : String
  writeByteOrderMark : Bool := false
  deriving Repr, DecidableEq, Inhabited

namespace OutputFile

/-- A file with another text. -/
def withText (f : OutputFile) (text : String) : OutputFile := { f with text := text }

/-- A file written with a byte order mark or without. -/
def withByteOrderMark (f : OutputFile) (flag : Bool) : OutputFile :=
  { f with writeByteOrderMark := flag }

/-- The kind of a file. -/
def kind (f : OutputFile) : FileKind := FileName.kind f.name

/-- The keys of a file, in the order they are written. -/
def keys : List String := ["name", "text", "writeByteOrderMark"]

/-- A file as JSON. -/
def write (f : OutputFile) : List Char :=
  writeObject
    [writeMember "name" (writeString f.name), writeMember "text" (writeString f.text),
      writeMember "writeByteOrderMark" (writeBool f.writeByteOrderMark)]

/-- A file as a JSON text. -/
def toJson (f : OutputFile) : String := String.ofList f.write

/-- Reads the value under a key. -/
def field (f : OutputFile) (key : String) : Reader OutputFile := do
  match key with
  | "name" => return { f with name := ← Reader.text }
  | "text" => return { f with text := ← Reader.text }
  | "writeByteOrderMark" => return { f with writeByteOrderMark := ← Reader.flag }
  | _ => return f

/-- Reads a file. -/
def read (depth : Nat) : Reader OutputFile :=
  Reader.record depth "struct OutputFile" keys ["name", "text"] field ⟨"", "", false⟩

/-- Reads a text as a file. -/
def parse (text : String) : Except Fault OutputFile := readText (read depthLimit) text

/-- The map of a file: the first file of a batch with the name of its map. Maps have no maps. -/
def locateMap (f : OutputFile) (batch : List OutputFile) : Option OutputFile :=
  if FileName.hasEnding f.name FileName.mapSuffix then none
  else batch.find? (·.name == FileName.mapName f.name)

end OutputFile

end ScriptMaps
