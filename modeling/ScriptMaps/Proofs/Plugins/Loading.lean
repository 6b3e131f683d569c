import ScriptMaps.Pipeline.Basic
import ScriptMaps.Proofs.Files.Parents
import ScriptMaps.Proofs.Plugins.Searching

/-!
# Loading the plugins of a pipeline

The identifiers of a configuration are searched for one after the other, until one is not found
(`Loading`). What is installed on a host is searched from a directory and from the one above it;
what comes with the library is the same everywhere, and then the host is not asked at all
(`ofConfig_loads`).
-/

namespace ScriptMaps

open ScriptMaps.Path (IsParent)

variable {σ : Type}

/-- Searches for identifiers, one after the other, each of which finds a plugin. -/
inductive Loads (resolver : Resolver (StateM σ)) (roots : List String) :
    σ → List String → List Lookup → List Plugin → σ → Prop where
  | none {s : σ} : Loads resolver roots s [] [] [] s
  | one {s s₁ s₂ : σ} {id : String} {ids : List String} {p : Plugin} {plugins : List Plugin}
    {made more : List Lookup} : Search resolver id roots s made (.ok p) s₁ →
    Loads resolver roots s₁ ids more plugins s₂ →
    Loads resolver roots s (id :: ids) (made ++ more) (p :: plugins) s₂

/-- How identifiers are searched for one after the other: all are found, or those before one that is
not. -/
inductive Loading (resolver : Resolver (StateM σ)) (roots ids : List String) (s : σ) :
    List Lookup → Except ResolveFault (List Plugin) → σ → Prop where
  | loaded {made : List Lookup} {plugins : List Plugin} {s' : σ} :
    Loads resolver roots s ids made plugins s' → Loading resolver roots ids s made (.ok plugins) s'
  | stopped {before after : List String} {id : String} {made last : List Lookup}
    {plugins : List Plugin} {s₁ s' : σ} : ids = before ++ id :: after →
    Loads resolver roots s before made plugins s₁ →
    Search resolver id roots s₁ last (.error (.notFound id)) s' →
    Loading resolver roots ids s (made ++ last) (.error (.notFound id)) s'

/-- The plugins that identifiers stand for, in their order; or, if some stand for none, a fault that
names the leftmost of these. -/
inductive Chosen (find : String → Option Plugin) (ids : List String) :
    Except ResolveFault (List Plugin) → Prop where
  | all {plugins : List Plugin} : ids.map find = plugins.map some → Chosen find ids (.ok plugins)
  | missing {before after : List String} {id : String} : ids = before ++ id :: after →
    (∀ other ∈ before, (find other).isSome) → find id = none →
    Chosen find ids (.error (.notFound id))

/-- The plugin that comes with the library under a name. -/
def Plugin.builtinNamed (name : String) : Option Plugin := Plugin.builtin.find? (·.name == name)

/-- The pipeline that a configuration asks for, once its plugins have been loaded. -/
def PipelineConfig.configured (config : PipelineConfig)
    (found : Except ResolveFault (List Plugin)) : Except PipelineFault ScriptPipeline :=
  (found.mapError .resolve).map (⟨·, config.options⟩)

/-! ## From a host -/

section Host

variable {resolver : Resolver (StateM σ)} {roots ids before after : List String} {id : String}
variable {made more last : List Lookup} {plugins : List Plugin} {p : Plugin}
variable {found : Except ResolveFault (List Plugin)} {s s' s₁ s₂ : σ}

/-- If an identifier is found then its plugin comes before those of the others. -/
lemma Loading.next (first : Search resolver id roots s made (.ok p) s₁)
    (others : Loading resolver roots ids s₁ more found s₂) :
    Loading resolver roots (id :: ids) s (made ++ more) (found.map (p :: ·)) s₂ := by
  cases others with
  | loaded all => exact .loaded (.one first all)
  | stopped split some missed =>
    rw [← List.append_assoc]
    refine .stopped (congrArg (id :: ·) split) (.one first some) missed

/-- Identifiers are searched for one after the other, whether lookups are written down or not. -/
lemma exists_loading (resolver : Resolver (StateM σ)) (roots ids : List String) (s : σ) :
    ∃ made found s', Loading resolver roots ids s made found s' ∧
      (ids.mapM fun id => resolvePlugin resolver id roots).run.run s = (found, s') ∧
      ∀ notes, performed (ids.mapM fun id => resolvePlugin resolver.recorded id roots) notes s =
        ((found, notes ++ made), s') := by
  induction ids generalizing s with
  | nil => exact ⟨[], .ok [], s, .loaded .none, rfl, fun notes => by rw [List.append_nil]; rfl⟩
  | cons id ids ih =>
    obtain ⟨made, result, s₁, search, run, recorded⟩ := exists_search resolver id roots s
    simp only [List.mapM_cons]
    cases result with
    | error e =>
      -- The first plugin that is not found ends the loading.
      have ends := search.ends
      obtain rfl : e = .notFound id := by
        obtain ⟨_, _, ends⟩ := ends
        cases ends
        rfl
      have split : id :: ids = [] ++ id :: ids := rfl
      have stops := Loading.stopped split .none search
      exact ⟨_, _, s₁, stops, run_bind_error run,
        fun notes => performed_bind_error (recorded notes)⟩
    | ok p =>
      obtain ⟨more, found, s', others, run', recorded'⟩ := ih s₁
      refine ⟨_, _, s', others.next search, ?_, fun notes => ?_⟩
      · rw [run_bind_ok run]
        cases found with
        | ok plugins => exact run_bind_ok run'
        | error e => exact run_bind_error run'
      · rw [performed_bind_ok (recorded notes), ← List.append_assoc]
        exact performed_bind_pure (recorded' _) _

/-- If all identifiers are found then none is missed. -/
lemma Loads.not_missed (all : Loads resolver roots s (before ++ id :: after) made plugins s')
    {made' last : List Lookup} {plugins' : List Plugin} {e : ResolveFault}
    (some : Loads resolver roots s before made' plugins' s₁)
    (missed : Search resolver id roots s₁ last (.error e) s₂) : False := by
  induction before generalizing s made made' plugins plugins' with
  | nil =>
    cases some
    cases all with
    | one found _ => exact nomatch (found.unique missed).2.1
  | cons other before ih =>
    cases some with
    | one found' rest' =>
      cases all with
      | one found rest =>
        obtain ⟨_, _, rfl⟩ := found.unique found'
        exact ih rest rest'

/-- Identifiers are loaded if and only if each of them is found. -/
lemma Loading.exists_ok_iff (h : Loading resolver roots ids s made found s') :
    (∃ plugins, found = .ok plugins) ↔
      ∃ made plugins s', Loads resolver roots s ids made plugins s' := by
  cases h with
  | loaded all => exact ⟨fun _ => ⟨_, _, _, all⟩, fun _ => ⟨_, rfl⟩⟩
  | stopped split some missed =>
    refine ⟨fun ⟨_, e⟩ => (nomatch e), fun ⟨_, _, _, all⟩ => ?_⟩
    rw [split] at all
    exact (all.not_missed some missed).elim

end Host

/-! ## From the library -/

section Library

variable {find : String → Option Plugin} {id : String} {ids : List String} {p : Plugin}
variable {found : Except ResolveFault (List Plugin)}

/-- If an identifier stands for a plugin then that comes before those of the others. -/
lemma Chosen.next (first : find id = some p) (others : Chosen find ids found) :
    Chosen find (id :: ids) (found.map (p :: ·)) := by
  cases others with
  | all each => exact .all (congrArg₂ List.cons first each)
  | missing split some missed =>
    refine .missing (congrArg (id :: ·) split) (List.forall_mem_cons.2 ⟨?_, some⟩) missed
    rw [first]
    rfl

/-- Plugins are chosen if and only if each identifier stands for one. -/
lemma Chosen.exists_ok_iff (h : Chosen find ids found) :
    (∃ plugins, found = .ok plugins) ↔ ∀ id ∈ ids, (find id).isSome := by
  cases h with
  | @all plugins each =>
    refine ⟨fun _ id mem => ?_, fun _ => ⟨plugins, rfl⟩⟩
    have named := List.mem_map_of_mem (f := find) mem
    rw [each] at named
    obtain ⟨p, _, named⟩ := List.mem_map.1 named
    rw [← named]
    rfl
  | @missing before after id split _ missed =>
    refine ⟨fun ⟨_, e⟩ => (nomatch e), fun each => ?_⟩
    have some := each id (by rw [split]; exact List.mem_append_right _ List.mem_cons_self)
    rw [missed] at some
    cases some

/-- No plugin comes with the library under an identifier that has the prefix. -/
lemma builtinNamed_append (name : String) : Plugin.builtinNamed (pluginPrefix ++ name) = none := by
  refine List.find?_eq_none.2 fun p mem named => ?_
  have bare : ∀ p ∈ Plugin.builtin, ¬ IsPrefixed p.name := by decide
  exact bare p mem ⟨name, beq_iff_eq.1 named⟩

/-- The registry of the library has its plugins under their names, and nothing else. -/
lemma plugin?_builtin (id : String) :
    PluginRegistry.builtin.plugin? id = Plugin.builtinNamed id := by
  have registered (id : String) : PluginRegistry.builtin.get? id = Plugin.builtinNamed id := by
    have entries : PluginRegistry.builtin.entries = Plugin.builtin.map fun p => (p.name, p) := rfl
    rw [PluginRegistry.get?, entries, List.find?_map, Option.map_map]
    exact Option.map_id'
  rw [PluginRegistry.plugin?, registered, registered, builtinNamed_append, Option.or_none, ite_self]

/-- What comes with the library is found from everywhere. -/
lemma exists_chosen (ids : List String) :
    ∃ found, Chosen Plugin.builtinNamed ids found ∧
      ∀ {m : Type → Type} [Monad m] [LawfulMonad m] (root : String),
        (ids.mapM fun id =>
          resolvePlugin (PluginRegistry.builtin.resolver : Resolver m) id [root]).run =
          pure found := by
  induction ids with
  | nil => exact ⟨.ok [], .all rfl, fun root => rfl⟩
  | cons id ids ih =>
    obtain ⟨found, chosen, run⟩ := ih
    have first {m : Type → Type} [Monad m] [LawfulMonad m] (root : String) :
        (resolvePlugin (PluginRegistry.builtin.resolver : Resolver m) id [root]).run =
          pure (searchResult id (Plugin.builtinNamed id)) := by
      rw [run_resolvePlugin_registry _ _ (List.cons_ne_nil root []), plugin?_builtin]
    cases named : Plugin.builtinNamed id with
    | none =>
      have split : id :: ids = [] ++ id :: ids := rfl
      refine ⟨_, .missing split nofun named, fun root => ?_⟩
      rw [List.mapM_cons, ExceptT.run_bind, first, named, pure_bind]
      rfl
    | some p =>
      refine ⟨_, chosen.next named, fun root => ?_⟩
      rw [List.mapM_cons, ExceptT.run_bind, first, named, pure_bind]
      change
        ((ids.mapM _) >>= fun plugins => pure (p :: plugins) : ExceptT ResolveFault _ _).run = _
      rw [ExceptT.run_bind, run, pure_bind]
      cases found with
      | ok plugins => rfl
      | error e => rfl

end Library

/-! ## Configurations -/

section Configurations

variable {config : PipelineConfig} {made : List Lookup} {notes : List Lookup} {root : String}
variable {found : Except ResolveFault (List Plugin)} {host : Resolver (StateM σ)} {s s' : σ}

/-- What a loader loads decides what a configuration asks for. -/
lemma run_ofConfig
    (run : ((PluginLoader.mk config.useHostResolution root host).loadAll config.plugins).run.run s =
      (found, s')) :
    (ScriptPipeline.ofConfig config host root).run.run s = (config.configured found, s') := by
  unfold ScriptPipeline.ofConfig
  have adapted := run_adapt run PipelineFault.resolve
  cases found with
  | ok plugins => exact run_bind_ok adapted
  | error e => exact run_bind_error adapted

/-- A configuration is loaded by loading its plugins, with the lookups of that. -/
lemma performed_ofConfig {host : Resolver (StateT (List Lookup) (StateM σ))}
    (run : performed ((PluginLoader.mk config.useHostResolution root host).loadAll config.plugins)
      notes s = ((found, made), s')) :
    performed (ScriptPipeline.ofConfig config host root) notes s =
      ((config.configured found, made), s') := by
  unfold ScriptPipeline.ofConfig
  have adapted : performed ((PluginLoader.mk config.useHostResolution root host).loadAll
      config.plugins |>.adapt PipelineFault.resolve) notes s =
      ((found.mapError .resolve, made), s') := by
    unfold performed at run ⊢
    rw [ExceptT.run_adapt, StateT.run_map, StateT.run_map, run]
    rfl
  exact performed_bind_pure adapted _

/-- A pipeline is configured exactly if its plugins were found. -/
lemma exists_configured_iff :
    (∃ p, config.configured found = .ok p) ↔ ∃ plugins, found = .ok plugins := by
  cases found with
  | ok plugins => exact ⟨fun _ => ⟨plugins, rfl⟩, fun _ => ⟨_, rfl⟩⟩
  | error e => exact ⟨fun ⟨_, h⟩ => (nomatch h), fun ⟨_, h⟩ => (nomatch h)⟩

end Configurations

/-- The plugins of a configuration are loaded if and only if each of its identifiers is found. Then
there is one plugin for each identifier, in their order, and it is the first hit for it; otherwise
the fault names the leftmost identifier that is not found, and nothing is looked up for those after
it. Unless the configuration says that plugins are on the host, the host is not asked, and the
outcome is the same for every host and from every directory. If it does, the host alone is asked,
from the directory and from the one above it, if there is one.
-/
theorem ofConfig_loads (config : PipelineConfig) :
    (config.useHostResolution = false →
      ∃ found, Chosen Plugin.builtinNamed config.plugins found ∧
        ((∃ p, config.configured found = .ok p) ↔
          ∀ id ∈ config.plugins, (Plugin.builtinNamed id).isSome) ∧
        ∀ {σ : Type} (host : Resolver (StateM σ)) (root : String) (s : σ),
          performed (ScriptPipeline.ofConfig config host.recorded root) [] s =
            ((config.configured found, []), s) ∧
          (ScriptPipeline.ofConfig config host root).run.run s = (config.configured found, s)) ∧
    (config.useHostResolution = true →
      ∀ {σ : Type} (host : Resolver (StateM σ)) (root : String) (s : σ),
        ∃ above made found s', IsParent root above ∧
          Loading host (root :: above.toList) config.plugins s made found s' ∧
          ((∃ p, config.configured found = .ok p) ↔ ∃ made plugins s',
            Loads host (root :: above.toList) s config.plugins made plugins s') ∧
          performed (ScriptPipeline.ofConfig config host.recorded root) [] s =
            ((config.configured found, made), s') ∧
          (ScriptPipeline.ofConfig config host root).run.run s =
            (config.configured found, s')) := by
  constructor
  · intro fromLibrary
    obtain ⟨found, chosen, run⟩ := exists_chosen config.plugins
    have load {m : Type → Type} [Monad m] [LawfulMonad m] (host : Resolver m) (root : String) :
        ((PluginLoader.mk config.useHostResolution root host).loadAll config.plugins).run =
          pure found := by
      unfold PluginLoader.loadAll PluginLoader.load
      rw [fromLibrary]
      exact run root
    refine ⟨found, chosen, exists_configured_iff.trans chosen.exists_ok_iff, ?_⟩
    intro σ host root s
    refine ⟨performed_ofConfig ?_, run_ofConfig ?_⟩
    · unfold performed
      rw [load]
      rfl
    · rw [load]
      rfl
  · intro fromHost σ host root s
    obtain ⟨made, found, s', loading, run, recorded⟩ :=
      exists_loading host (root :: (Path.parent? root).toList) config.plugins s
    refine ⟨Path.parent? root, made, found, s', Path.isParent_parent? root, loading,
      exists_configured_iff.trans loading.exists_ok_iff, performed_ofConfig ?_, run_ofConfig ?_⟩
    · unfold PluginLoader.loadAll PluginLoader.load
      rw [fromHost]
      exact recorded []
    · unfold PluginLoader.loadAll PluginLoader.load
      rw [fromHost]
      exact run

/-- What comes with the library is loaded in order and repeated, and is not found on a host, where
an identifier is found only in the directory above.
-/
theorem ofConfig_loads_stopped :
    let library : PipelineConfig :=
      { plugins := ["strip-console", "remove-debugger", "strip-console"] }
    let installed : PipelineConfig :=
      { plugins := ["quiet", "remove-debugger", "quiet"], useHostResolution := true }
    let host : Resolver (StateM Nat) := fun id root n =>
      (if id = "sdc-plugin-quiet" ∧ root = "/app" then some .stripConsole else none, n + 1)
    library.useHostResolution = false ∧
    (∃ p, (ScriptPipeline.ofConfig library host "/").run.run 0 = (.ok p, 0) ∧
      p.plugins.map Plugin.name = ["strip-console", "remove-debugger", "strip-console"]) ∧
    installed.useHostResolution = true ∧
    ∃ above made, IsParent "/app//tools/" above ∧
      Loading host ("/app//tools/" :: above.toList) installed.plugins 0 made
        (.error (.notFound "remove-debugger")) 8 ∧
      made.map Lookup.asked =
        [("quiet", "/app//tools/"), ("sdc-plugin-quiet", "/app//tools/"), ("quiet", "/app"),
          ("sdc-plugin-quiet", "/app"), ("remove-debugger", "/app//tools/"),
          ("sdc-plugin-remove-debugger", "/app//tools/"), ("remove-debugger", "/app"),
          ("sdc-plugin-remove-debugger", "/app")] := by
  intro library installed host
  have fromLibrary : library.useHostResolution = false := rfl
  have fromHost : installed.useHostResolution = true := rfl
  refine ⟨fromLibrary, ?_, fromHost, ?_⟩
  · obtain ⟨found, _, loads, run⟩ := (ofConfig_loads library).1 fromLibrary
    obtain ⟨p, loaded⟩ := loads.2 (by decide +kernel)
    obtain ⟨_, run⟩ := run host "/" 0
    rw [loaded] at run
    refine ⟨p, run, ?_⟩
    have names : (((ScriptPipeline.ofConfig library host "/").run.run 0).1.map
        fun p => p.plugins.map Plugin.name) =
        .ok ["strip-console", "remove-debugger", "strip-console"] := by decide +kernel
    rw [run] at names
    exact Except.ok.inj names
  · obtain ⟨above, made, found, s', isParent, loading, _, recorded, _⟩ :=
      (ofConfig_loads installed).2 fromHost host "/app//tools/" 0
    -- Plugins are functions and cannot be compared, but their names can.
    let view (r : (Except PipelineFault ScriptPipeline × List Lookup) × Nat) :=
      (r.1.1.map fun p => p.plugins.map Plugin.name, r.1.2.map Lookup.asked, r.2)
    have seen : view (performed (ScriptPipeline.ofConfig installed host.recorded "/app//tools/") []
        0) = (.error (.resolve (.notFound "remove-debugger")),
          [("quiet", "/app//tools/"), ("sdc-plugin-quiet", "/app//tools/"), ("quiet", "/app"),
            ("sdc-plugin-quiet", "/app"), ("remove-debugger", "/app//tools/"),
            ("sdc-plugin-remove-debugger", "/app//tools/"), ("remove-debugger", "/app"),
            ("sdc-plugin-remove-debugger", "/app")], 8) := by decide +kernel
    rw [recorded] at seen
    obtain ⟨result, seen⟩ := Prod.mk.inj seen
    obtain ⟨asked, rfl⟩ := Prod.mk.inj seen
    cases found with
    | ok plugins => cases result
    | error e =>
      cases result
      exact ⟨above, made, isParent, loading, asked⟩

end ScriptMaps
