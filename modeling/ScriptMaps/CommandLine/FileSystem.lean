import ScriptMaps.Pipeline.Fault

/-!
# File systems

What the program needs of the place where files are kept. Any monad will do in which files can be
read and written: that of the operating system, or one whose state is a tree of files.
-/

namespace ScriptMaps.CommandLine

/-- Why a file cannot be read or written. -/
inductive FileFault where
  | notFound
  | alreadyExists
  | notDirectory
  | isDirectory
  | notText
  | nameTooLong
  /-- A reason in the words of the operating system. -/
  | other (message : String)
  deriving Repr, DecidableEq, Inhabited

/-- The wording of a fault. -/
def FileFault.message : FileFault → String
  | .notFound => "No such file or directory (os error 2)"
  | .alreadyExists => "File exists (os error 17)"
  | .notDirectory => "Not a directory (os error 20)"
  | .isDirectory => "Is a directory (os error 21)"
  | .notText => "stream did not contain valid UTF-8"
  | .nameTooLong => "File name too long (os error 36)"
  | .other message => message

/-- The operations on files. -/
structure FileSystem (m : Type → Type) where
  /-- The directory that paths start from. -/
  workingDirectory : ExceptT FileFault m String
  /-- The contents of a file. -/
  read : String → ExceptT FileFault m ByteArray
  /-- Makes a directory and all those it lies in, as far as they are missing. -/
  makeDirectories : String → ExceptT FileFault m Unit
  /-- Makes the contents of a file what they are to be. -/
  write : String → ByteArray → ExceptT FileFault m Unit

variable {m : Type → Type} [Monad m]

/-- The text in a file. -/
def FileSystem.readText (fs : FileSystem m) (path : String) : ExceptT FileFault m String := do
  match String.fromUTF8? (← fs.read path) with
  | some text => return text
  | none => throw .notText

/-- A fault as it is reported where nothing more is known. -/
def FileFault.report (f : FileFault) : Report := ⟨f.message, []⟩

/-- A fault as it is reported together with what was tried. -/
def FileFault.reportWhile (what : String) (f : FileFault) : Report := ⟨what, [f.message]⟩

end ScriptMaps.CommandLine
