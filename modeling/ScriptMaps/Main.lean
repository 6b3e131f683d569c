import ScriptMaps.CommandLine.Session

/-!
# The program

The commands on the files of the operating system.
-/

namespace ScriptMaps.CommandLine

/-- A fault of the operating system. -/
def faultOf : IO.Error → FileFault
  | .noFileOrDirectory .. => .notFound
  | .alreadyExists .. => .alreadyExists
  | .inappropriateType .. => .notDirectory
  | e => .other (toString e)

/-- An operation of the operating system. -/
def attempt {α : Type} (operation : IO α) : ExceptT FileFault IO α :=
  ExceptT.mk do
    try return .ok (← operation)
    catch e => return .error (faultOf e)

/-- The files of the operating system. -/
def hostFiles : FileSystem IO where
  workingDirectory := attempt do return (← IO.currentDir).toString
  read path := attempt (IO.FS.readBinFile path)
  makeDirectories path := attempt (IO.FS.createDirAll path)
  write path contents := attempt (IO.FS.writeBinFile path contents)

end ScriptMaps.CommandLine

open ScriptMaps.CommandLine in
/-- Carries out the command that the arguments ask for. -/
def main (args : List String) : IO UInt32 := do
  let outcome ← execute hostFiles args
  outcome.output.stdout.forM IO.println
  outcome.output.stderr.forM IO.eprintln
  return outcome.exitCode.toUInt32
