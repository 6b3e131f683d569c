import ScriptMaps.Plugins.Plugin

/-!
# Registries

A registry holds plugins under identifiers. The plugin that was registered last under an identifier
is the one found there.
-/

namespace ScriptMaps

/-- Plugins under identifiers, each of which occurs once. -/
structure PluginRegistry where
  entries : List (String × Plugin) := []
  deriving Inhabited

namespace PluginRegistry

/-- Puts a plugin under an identifier, in the place of the one that was there. -/
def insertEntry (id : String) (p : Plugin) : List (String × Plugin) → List (String × Plugin)
  | [] => [(id, p)]
  | e :: es => if e.1 == id then (id, p) :: es else e :: insertEntry id p es

/-- Registers a plugin under an identifier. -/
def registerAs (r : PluginRegistry) (id : String) (p : Plugin) : PluginRegistry :=
  ⟨insertEntry id p r.entries⟩

/-- Registers a plugin under its own name. -/
def register (r : PluginRegistry) (p : Plugin) : PluginRegistry := r.registerAs p.name p

/-- The plugins that come with the library. -/
def builtin : PluginRegistry := Plugin.builtin.foldl register {}

/-- The plugin under an identifier. -/
def get? (r : PluginRegistry) (id : String) : Option Plugin :=
  (r.entries.find? (·.1 == id)).map (·.2)

/-- The number of identifiers. -/
def size (r : PluginRegistry) : Nat := r.entries.length

/-- Whether nothing is registered. -/
def isEmpty (r : PluginRegistry) : Bool := r.entries.isEmpty

end PluginRegistry

end ScriptMaps
