import ScriptMaps.Syntax.Removal

/-!
# Plugins

A plugin is a pass over a module that removes statements. Two come with the library.
-/

namespace ScriptMaps

open ScriptMaps.Syntax (Node Module)

/-- A named pass and the statements it removes. -/
structure Plugin where
  name : String
  removes : Node → Bool
  deriving Inhabited

namespace Plugin

/-- The pass of a plugin over a module. -/
def run (p : Plugin) (m : Module) : Module := m.remove p.removes

/-- The passes of several plugins, one after the other. -/
def runAll (plugins : List Plugin) (m : Module) : Module := plugins.foldl (fun m p => p.run m) m

/-- Removes the statements that stop a debugger. -/
def removeDebugger : Plugin := ⟨"remove-debugger", Node.isDebugger⟩

/-- Removes the calls of members of `console`. -/
def stripConsole : Plugin := ⟨"strip-console", Node.isConsoleCall⟩

/-- The plugins that come with the library. -/
def builtin : List Plugin := [removeDebugger, stripConsole]

end Plugin

end ScriptMaps
