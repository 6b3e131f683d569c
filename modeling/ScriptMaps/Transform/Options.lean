import ScriptMaps.SourceMap.Document
import ScriptMaps.Transform.CommentFilter

/-!
# Options of a transformation

The options for one file. All of them are written, those without a value as `null`; only the comment
filter is neither written nor read.
-/

namespace ScriptMaps

open ScriptMaps.Json
open ScriptMaps.SourceMap (Document)

/-- The options for transforming a file. -/
structure TransformOptions where
  filename : Option String := none
  filenameRelative : Option String := none
  /-- Whether a map of the printed code is made. -/
  sourceMaps : Bool := false
  sourceRoot : Option String := none
  /-- The name the map gives to its source. -/
  sourceFileName : Option String := none
  /-- The name the map gives to the code. -/
  sourceMapTarget : Option String := none
  /-- The map of the text, onto which the map of the code is composed. -/
  inputSourceMap : Option Document := none
  /-- Whether comments are printed. -/
  comments : Bool := true
  /-- Whether the code is printed without blanks and line ends. -/
  compact : Bool := false
  /-- Whether the transformed module is wanted. -/
  ast : Bool := false
  /-- The comments that are dropped even if others are printed. -/
  commentFilter : Option CommentFilter := none
  deriving Inhabited

namespace TransformOptions

/-- Whether a comment is printed. -/
def printsComment (o : TransformOptions) (text : String) : Bool :=
  o.comments && !(o.commentFilter.map (·.rejects text)).getD false

/-- The keys of options, in the order they are written. -/
def keys : List String :=
  ["filename", "filenameRelative", "sourceMaps", "sourceRoot", "sourceFileName", "sourceMapTarget",
    "inputSourceMap", "comments", "compact", "ast"]

/-- Options as JSON. -/
def write (o : TransformOptions) : List Char :=
  writeObject
    [writeMember "filename" (writeOptionalString o.filename),
      writeMember "filenameRelative" (writeOptionalString o.filenameRelative),
      writeMember "sourceMaps" (writeBool o.sourceMaps),
      writeMember "sourceRoot" (writeOptionalString o.sourceRoot),
      writeMember "sourceFileName" (writeOptionalString o.sourceFileName),
      writeMember "sourceMapTarget" (writeOptionalString o.sourceMapTarget),
      writeMember "inputSourceMap" ((o.inputSourceMap.map Document.write).getD "null".toList),
      writeMember "comments" (writeBool o.comments),
      writeMember "compact" (writeBool o.compact),
      writeMember "ast" (writeBool o.ast)]

/-- Options as a JSON text. -/
def toJson (o : TransformOptions) : String := String.ofList o.write

/-- Reads the value under a key. -/
def field (depth : Nat) (o : TransformOptions) (key : String) : Reader TransformOptions := do
  match key with
  | "filename" => return { o with filename := ← Reader.optional Reader.text }
  | "filenameRelative" => return { o with filenameRelative := ← Reader.optional Reader.text }
  | "sourceMaps" => return { o with sourceMaps := ← Reader.flag }
  | "sourceRoot" => return { o with sourceRoot := ← Reader.optional Reader.text }
  | "sourceFileName" => return { o with sourceFileName := ← Reader.optional Reader.text }
  | "sourceMapTarget" => return { o with sourceMapTarget := ← Reader.optional Reader.text }
  | "inputSourceMap" =>
    return { o with inputSourceMap := ← Reader.optional (Document.read depth) }
  | "comments" => return { o with comments := ← Reader.flag }
  | "compact" => return { o with compact := ← Reader.flag }
  | "ast" => return { o with ast := ← Reader.flag }
  | _ => return o

/-- Reads options, of which any may be missing. -/
def read (depth : Nat) : Reader TransformOptions :=
  Reader.record depth "struct TransformOptions" keys [] (field (depth - 1)) {}

/-- Reads a text as options. -/
def parse (text : String) : Except Fault TransformOptions := readText (read depthLimit) text

end TransformOptions

end ScriptMaps
