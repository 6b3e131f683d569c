import ScriptMaps.Syntax.Node
import ScriptMaps.SourceMap.Vlq
import ScriptMaps.Transform.Options

/-!
# Engines

An engine turns the text of a file and its options into code and perhaps a map of the code. It may
do so in any monad, for instance one in which it remembers its calls, and it may fail.
-/

namespace ScriptMaps

open ScriptMaps.SourceMap (Document MapCause)

/-- Why a text cannot be transformed. -/
inductive EngineFault where
  /-- The text is no module; lines and columns count from 1. -/
  | parse (filename : String) (line column : Nat) (message : String)
  /-- The map of the code cannot be composed onto the map of the text. -/
  | sourceMap (cause : MapCause)
  /-- A reason of an engine's own. -/
  | other (message : String)
  deriving Repr, DecidableEq, Inhabited

/-- The wording of a fault. -/
def EngineFault.message : EngineFault → String
  | .parse filename line column message =>
    filename ++ ":" ++ toString line ++ ":" ++ toString column ++ ": " ++ message
  | .sourceMap _ => "failed to compose source maps"
  | .other message => message

/-- What led to a fault. -/
def EngineFault.causes : EngineFault → List String
  | .sourceMap cause => [cause.message]
  | _ => []

/-- What comes of a text. -/
structure TransformOutput where
  code : String
  /-- The map of the code, if one was made. -/
  map : Option Document := none
  /-- The transformed module, if it was wanted. -/
  ast : Option Syntax.Module := none
  deriving Inhabited

/-- A transformation of texts. -/
def Engine (m : Type → Type) : Type :=
  String → TransformOptions → ExceptT EngineFault m TransformOutput

end ScriptMaps
