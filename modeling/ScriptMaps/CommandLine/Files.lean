import ScriptMaps.Files.OutputFile
import ScriptMaps.Files.Path
import ScriptMaps.Pipeline.Debug
import ScriptMaps.CommandLine.FileSystem

/-!
# Files of a batch on disk

A file is read as a member of a batch that is named by its path, and written below a directory. The
byte order mark is not part of the text.
-/

namespace ScriptMaps.CommandLine

/-- The character that marks the order of bytes. -/
def byteOrderMark : Char := Char.ofNat 0xfeff

/-- The member of a batch that stands for a named text. -/
def fileOfText (name text : String) : OutputFile :=
  match text.toList with
  | c :: rest =>
    if c == byteOrderMark then ⟨name, String.ofList rest, true⟩ else ⟨name, text, false⟩
  | [] => ⟨name, text, false⟩

/-- The text that is written for a member of a batch. -/
def writtenText (f : OutputFile) : String :=
  if f.writeByteOrderMark then String.ofList (byteOrderMark :: f.text.toList) else f.text

/-- The name of a component, if it leads downwards. -/
def downward? : Path.Component → Option String
  | .name s => some s
  | _ => none

/-- Where a file is written below a directory. Only the components that lead downwards count, so
that nothing is written outside of it. -/
def destination (dir name : String) : String :=
  Path.join dir ("/".intercalate ((Path.components name).filterMap downward?))

variable {m : Type → Type} [Monad m]

/-- Reads a file as a member of a batch. -/
def readFile (fs : FileSystem m) (path : String) : ExceptT Report m OutputFile := do
  let text ← (fs.readText path).adapt (·.reportWhile ("failed to read " ++ path))
  return fileOfText path text

/-- Writes a member of a batch below a directory. -/
def writeFile (fs : FileSystem m) (dir : String) (f : OutputFile) : ExceptT Report m Unit := do
  let path := destination dir f.name
  match Path.parent? path with
  | some parent => (fs.makeDirectories parent).adapt (·.report)
  | none => pure ()
  (fs.write path (writtenText f).toUTF8).adapt (·.reportWhile ("failed to write " ++ path))

/-- Hooks that write each file below a directory. A hook makes the directories of its file and
writes it in one step, without waiting, so the files of a set are written one after the other. A
program that waits for its operating system in between mixes the steps for several files, so of
dumps only that is said which holds for each of them alone. -/
def dumping (fs : FileSystem m) (dir : String) : Hooks m :=
  fun f => return ⟨0, writeFile fs dir f⟩

end ScriptMaps.CommandLine
