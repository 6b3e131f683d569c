/-!
# Paths

A path is a text; what counts for comparing paths are its components, which slashes part. Repeated
and trailing slashes and components `.` make no difference, except a `.` at the very beginning.
-/

namespace ScriptMaps.Path

/-- A component of a path. -/
inductive Component where
  | root
  | here
  | up
  | name (s : String)
  deriving Repr, DecidableEq, Inhabited

/-- The texts between the slashes of a path. -/
def pieces (path : String) : List String := (path.toList.splitOn '/').map String.ofList

/-- What a text between slashes stands for. -/
def component? (piece : String) : Option Component :=
  if piece == "" || piece == "." then none
  else if piece == ".." then some .up
  else some (.name piece)

/-- The components of a path. -/
def components (path : String) : List Component :=
  match pieces path with
  | "" :: _ :: _ => .root :: (pieces path).filterMap component?
  | "." :: rest => .here :: rest.filterMap component?
  | all => all.filterMap component?

/-- Whether two paths have the same components. -/
def same (a b : String) : Bool := components a == components b

/-- Whether a text between slashes stands for no component. -/
def isIdle (piece : String) : Bool := piece == "" || piece == "."

/-- Texts between slashes, in reverse, without those at the end that stand for no component. -/
def dropIdle (reversed : List String) : List String := reversed.dropWhile isIdle

/-- A path without its last component, if that is not its root. -/
def parent? (path : String) : Option String :=
  match pieces path with
  | "" :: piece :: rest =>
    match dropIdle (piece :: rest).reverse with
    | [] => none
    | _ :: before =>
      match (dropIdle before).reverse with
      | [] => some "/"
      | kept => some ("/" ++ "/".intercalate kept)
  | "." :: rest =>
    match dropIdle rest.reverse with
    | [] => some ""
    | _ :: before => some ("/".intercalate ("." :: (dropIdle before).reverse))
  | all =>
    match dropIdle all.reverse with
    | [] => none
    | _ :: before => some ("/".intercalate (dropIdle before).reverse)

/-- A path below a directory. -/
def join (dir path : String) : String :=
  if path.toList.head? == some '/' then path
  else if dir == "" || dir.toList.getLast? == some '/' then dir ++ path
  else dir ++ "/" ++ path

end ScriptMaps.Path
