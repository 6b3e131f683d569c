/-!
# File names

What happens to a file is decided by its name alone: scripts are transformed, maps belong to
scripts, and everything else is passed on.
-/

namespace ScriptMaps

/-- How a file is treated. -/
inductive FileKind where
  /-- Transformed, together with its map if it has one. -/
  | script
  /-- Dropped from its place, and put after its script when that is transformed. -/
  | sourceMap
  /-- Passed on. -/
  | other
  deriving Repr, DecidableEq, Inhabited

/-- What a kind of files is called. -/
def FileKind.name : FileKind → String
  | .script => "script"
  | .sourceMap => "source map"
  | .other => "other"

namespace FileName

/-- The end of the name of a map. -/
def mapSuffix : String := ".map"

/-- The ends of the names of scripts: plain ones and those with markup. -/
def scriptSuffixes : List String := [".js", ".jsx"]

/-- Whether a name has an ending. -/
def hasEnding (name ending : String) : Bool := ending.toList.isSuffixOf name.toList

/-- The kind of the file with a name. -/
def kind (name : String) : FileKind :=
  if scriptSuffixes.any (hasEnding name) then .script
  else if hasEnding name mapSuffix then .sourceMap
  else .other

/-- Whether the script with a name may hold markup. -/
def hasMarkup (name : String) : Bool := hasEnding name ".jsx"

/-- The name of the map of the script with a name. -/
def mapName (name : String) : String := name ++ mapSuffix

/-- Whether a character parts the directories in a name. -/
def isSeparator (c : Char) : Bool := c == '/' || c == '\\'

/-- A name without the directories before it. -/
def basename (name : String) : String :=
  String.ofList (name.toList.reverse.takeWhile (!isSeparator ·)).reverse

end FileName

end ScriptMaps
