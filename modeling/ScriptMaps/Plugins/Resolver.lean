import ScriptMaps.Plugins.Registry
import ScriptMaps.Files.Path

/-!
# Resolving plugins

A resolver looks a plugin up by an identifier, seen from a directory. To resolve an identifier is to
look it up from one directory after the other, there first as it is and then with the prefix that
the packages of plugins have by convention.
-/

namespace ScriptMaps

/-- The prefix of the packages of plugins. -/
def pluginPrefix : String := "sdc-plugin-"

/-- The identifiers a plugin is looked up by, in order. -/
def candidateIds (id : String) : List String :=
  if pluginPrefix.toList.isPrefixOf id.toList then [id] else [id, pluginPrefix ++ id]

/-- Why no plugin was found. -/
inductive ResolveFault where
  | notFound (id : String)
  deriving Repr, DecidableEq, Inhabited

/-- The wording of a fault. -/
def ResolveFault.message : ResolveFault → String
  | .notFound id => "cannot find module '" ++ id ++ "'"

/-- A way to look plugins up by an identifier from a directory. -/
def Resolver (m : Type → Type) : Type := String → String → m (Option Plugin)

/-- What is looked up for an identifier, in order. -/
def lookups (id : String) (roots : List String) : List (String × String) :=
  roots.flatMap fun root => (candidateIds id).map fun candidate => (candidate, root)

/-- The first plugin found. -/
def firstFound {m : Type → Type} [Monad m] (resolver : Resolver m) :
    List (String × String) → m (Option Plugin)
  | [] => return none
  | (candidate, root) :: rest => do
    match ← resolver candidate root with
    | some p => return some p
    | none => firstFound resolver rest

/-- Resolves an identifier from directories. -/
def resolvePlugin {m : Type → Type} [Monad m] (resolver : Resolver m) (id : String)
    (roots : List String) : ExceptT ResolveFault m Plugin := do
  match ← ExceptT.lift (firstFound resolver (lookups id roots)) with
  | some p => return p
  | none => throw (.notFound id)

/-! ## Registries -/

/-- The first plugin that a registry has for an identifier, as it is or with the prefix. -/
def PluginRegistry.resolve? (r : PluginRegistry) (id : String) : Option Plugin :=
  (candidateIds id).findSome? r.get?

/-- A registry as a resolver; the directory does not matter. -/
def PluginRegistry.resolver {m : Type → Type} [Monad m] (r : PluginRegistry) : Resolver m :=
  fun id _ => return r.resolve? id

/-! ## Installed plugins -/

/-- Registries of the plugins installed in directories. Paths with the same components are one
directory. -/
structure InstalledPlugins where
  directories : List (String × PluginRegistry) := []
  deriving Inhabited

namespace InstalledPlugins

/-- Installs a plugin in a directory. -/
def installIn (root id : String) (p : Plugin) :
    List (String × PluginRegistry) → List (String × PluginRegistry)
  | [] => [(root, PluginRegistry.registerAs {} id p)]
  | d :: ds =>
    if Path.same d.1 root then (d.1, d.2.registerAs id p) :: ds else d :: installIn root id p ds

/-- Installs a plugin in a directory under an identifier. -/
def install (i : InstalledPlugins) (root id : String) (p : Plugin) : InstalledPlugins :=
  ⟨installIn root id p i.directories⟩

/-- The plugin installed in a directory under an identifier. -/
def find? (i : InstalledPlugins) (id root : String) : Option Plugin :=
  (i.directories.find? (Path.same ·.1 root)).bind (·.2.get? id)

/-- Installed plugins as a resolver. -/
def resolver {m : Type → Type} [Monad m] (i : InstalledPlugins) : Resolver m :=
  fun id root => return i.find? id root

end InstalledPlugins

/-! ## Loading -/

/-- Where a pipeline has its plugins from: what is installed on the host, looked up from a directory
and from the one above it, or what comes with the library. -/
structure PluginLoader (m : Type → Type) where
  usesHost : Bool
  root : String
  host : Resolver m

namespace PluginLoader

variable {m : Type → Type} [Monad m]

/-- The plugin with an identifier. -/
def load (l : PluginLoader m) (id : String) : ExceptT ResolveFault m Plugin :=
  if l.usesHost then resolvePlugin l.host id (l.root :: (Path.parent? l.root).toList)
  else resolvePlugin PluginRegistry.builtin.resolver id [l.root]

/-- The plugins with several identifiers. -/
def loadAll (l : PluginLoader m) (ids : List String) : ExceptT ResolveFault m (List Plugin) :=
  ids.mapM l.load

end PluginLoader

end ScriptMaps
