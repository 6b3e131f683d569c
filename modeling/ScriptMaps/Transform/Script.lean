import ScriptMaps.Files.Name
import ScriptMaps.Syntax.Parser
import ScriptMaps.Print.Module
import ScriptMaps.SourceMap.Generated
import ScriptMaps.SourceMap.Compose
import ScriptMaps.Plugins.Plugin
import ScriptMaps.Transform.Engine

/-!
# Transforming scripts

The engine of the library: a text is read as a module, the passes of the plugins run over it, the
comments to be printed are picked, and the module is printed. The map of the code leads back to the
text, or through a map of the text to what that was made from.
-/

namespace ScriptMaps

open ScriptMaps.Syntax (Module Comments Comment)
open ScriptMaps.SourceMap (Document compose)

/-- A text without the byte order mark it may begin with. -/
def withoutByteOrderMark (text : String) : String :=
  match text.toList with
  | c :: rest => if c.toNat == 0xfeff then String.ofList rest else text
  | [] => text

/-- Where a fault of a text is reported. -/
def EngineFault.ofFault (filename text : String) (f : Syntax.Fault) : EngineFault :=
  let place := Text.placeOf Print.utf16Width text.toList f.pos
  .parse filename (place.line + 1) (place.column + 1) f.cause.message

/-- Reads the text of a file as a module with its comments. -/
def parseScript (filename text : String) : Except EngineFault (Module × Comments) :=
  let text := withoutByteOrderMark text
  match Syntax.parseModule (FileName.hasMarkup filename) text with
  | .ok parsed => .ok parsed
  | .error f => .error (.ofFault filename text f)

/-- The comments that are printed. -/
def printedComments (options : TransformOptions) (comments : Comments) : Comments :=
  if options.comments then comments.retain options.printsComment else {}

/-- The map of printed code, led through the map of the text if there is one. -/
def scriptMap (options : TransformOptions) (generated : Document) :
    Except EngineFault Document := do
  let found ←
    match options.inputSourceMap with
    | none => pure generated
    | some input =>
      match compose generated input with
      | .ok composed => pure (composed.withExtraOf input)
      | .error cause => .error (.sourceMap cause)
  return { found with file := options.sourceMapTarget, sourceRoot := options.sourceRoot }

/-- Transforms the text of a script. -/
def transformScript (plugins : List Plugin) (text : String) (options : TransformOptions) :
    Except EngineFault TransformOutput := do
  let filename := options.filename.getD "unknown.js"
  let sourceName := options.sourceFileName.getD filename
  let (parsed, comments) ← parseScript filename text
  let module := Plugin.runAll plugins parsed
  let laid := Print.render options.compact (printedComments options comments) module
  let map ←
    if options.sourceMaps then
      let generated :=
        Document.ofMarks sourceName (withoutByteOrderMark text) laid.marks.reverse
      some <$> scriptMap options generated
    else pure none
  return ⟨laid.code, map, if options.ast then some module else none⟩

/-- The engine that transforms scripts with plugins. -/
def scriptEngine {m : Type → Type} [Monad m] (plugins : List Plugin) : Engine m :=
  fun text options => ExceptT.mk (pure (transformScript plugins text options))

end ScriptMaps
