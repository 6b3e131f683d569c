import ScriptMaps.CommandLine.FileSystem
import ScriptMaps.Files.Path

/-!
# Disks

A file system as a value: files and directories under absolute paths. Paths are followed step by
step as an operating system does, so that every step but the last has to lead to a directory. There
are no links: a step upwards leads to the directory above by its name, whatever way it was reached.
-/

namespace ScriptMaps.CommandLine

/-- What stands under a path. -/
inductive Entry where
  | directory
  | file (contents : ByteArray)
  deriving Inhabited

/-- An absolute path as the names on the way from the root. -/
abbrev Location := List String

/-- Files and directories, but no links, so each is reached by its own location only. The root is a
directory that needs no entry. -/
structure Disk where
  entries : List (Location × Entry) := []
  workingDirectory : Location := []
  deriving Inhabited

namespace Disk

/-- What stands at a location. -/
def get? (d : Disk) (l : Location) : Option Entry :=
  if l.isEmpty then some .directory else (d.entries.find? (·.1 == l)).map (·.2)

/-- Puts an entry at a location. -/
def insert (d : Disk) (l : Location) (e : Entry) : Disk :=
  { d with entries := (l, e) :: d.entries.filter (·.1 != l) }

/-- The most bytes a name may have. -/
def nameLimit : Nat := 255

/-- The most bytes a path may have. -/
def pathLimit : Nat := 4095

/-- Follows the steps of a path from a directory. What the last one leads to may be missing. A step
upwards takes off the last name of the location, as there are no links. -/
def follow (d : Disk) (here : Location) : List String → Except FileFault Location
  | [] => .ok here
  | step :: rest =>
    if step == "" || step == "." then d.follow here rest
    else if step == ".." then d.follow here.dropLast rest
    else if step.utf8ByteSize > nameLimit then .error .nameTooLong
    else if rest.isEmpty then .ok (here ++ [step])
    else
      match d.get? (here ++ [step]) with
      | some .directory => d.follow (here ++ [step]) rest
      | some (.file _) => .error .notDirectory
      | none => .error .notFound

/-- The directory a path starts from. -/
def startOf (d : Disk) (path : String) : Location :=
  if path.toList.head? == some '/' then [] else d.workingDirectory

/-- Where a path leads. -/
def locate (d : Disk) (path : String) : Except FileFault Location :=
  if path.isEmpty then .error .notFound
  else if path.utf8ByteSize > pathLimit then .error .nameTooLong
  else d.follow (d.startOf path) (Path.pieces path)

/-- The contents of a file. -/
def read (d : Disk) (path : String) : Except FileFault ByteArray := do
  match d.get? (← d.locate path) with
  | some (.file contents) => return contents
  | some .directory => throw .isDirectory
  | none => throw .notFound

/-- A disk with other contents of a file. -/
def write (d : Disk) (path : String) (contents : ByteArray) : Except FileFault Disk := do
  let l ← d.locate path
  match d.get? l with
  | some .directory => throw .isDirectory
  | _ => return d.insert l (.file contents)

/-- A disk with the directories that the steps of a path lead through. -/
def makeFrom (d : Disk) (here : Location) : List String → Except FileFault Disk
  | [] => .ok d
  | step :: rest =>
    if step == "" || step == "." then d.makeFrom here rest
    else if step == ".." then d.makeFrom here.dropLast rest
    else if step.utf8ByteSize > nameLimit then .error .nameTooLong
    else
      match d.get? (here ++ [step]) with
      | some .directory => d.makeFrom (here ++ [step]) rest
      | some (.file _) => .error (if rest.isEmpty then .alreadyExists else .notDirectory)
      | none => (d.insert (here ++ [step]) .directory).makeFrom (here ++ [step]) rest

/-- A disk with a directory and those it lies in. -/
def makeDirectories (d : Disk) (path : String) : Except FileFault Disk :=
  if path.utf8ByteSize > pathLimit then .error .nameTooLong
  else d.makeFrom (d.startOf path) (Path.pieces path)

/-- Changes a disk unless that fails. -/
def changing (change : Disk → Except FileFault Disk) : ExceptT FileFault (StateM Disk) Unit := do
  match change (← get) with
  | .ok d => set d
  | .error f => throw f

/-- Disks as a file system. -/
def fileSystem : FileSystem (StateM Disk) where
  workingDirectory := return "/" ++ "/".intercalate (← get).workingDirectory
  read path := do
    match (← get).read path with
    | .ok contents => return contents
    | .error f => throw f
  makeDirectories path := changing (·.makeDirectories path)
  write path contents := changing (·.write path contents)

end Disk

end ScriptMaps.CommandLine
