import ScriptMaps.Plugins.Resolver
import ScriptMaps.Proofs.Files.Joining

/-!
# Registering plugins

What is found in a registry after any history of registrations, and what is found in a directory
after any history of installations. One step decides what is found under its own identifier and
leaves all others as they are (`get?_registerAs`, `find?_install`), so a whole history is decided by
the newest of its steps under that identifier (`exists_newest`). Directories are the same if their
paths have the same components, however these are written.
-/

namespace ScriptMaps

/-! ## Histories -/

/-- The newest entry of a history that a condition holds of, if there is one. -/
inductive Newest {α : Type} (holds : α → Prop) : List α → Option α → Prop where
  | found {before after : List α} {x : α} : holds x → (∀ later ∈ after, ¬ holds later) →
    Newest holds (before ++ x :: after) (some x)
  | missing {history : List α} : (∀ x ∈ history, ¬ holds x) → Newest holds history none

section Histories

variable {σ α β : Type} {holds : α → Prop} [DecidablePred holds] {history : List α}
variable {newest : Option α}

/-- One more entry is the newest one if the condition holds of it. -/
lemma Newest.append (h : Newest holds history newest) (x : α) :
    Newest holds (history ++ [x]) (if holds x then some x else newest) := by
  split
  case isTrue is => exact .found is nofun
  case isFalse isNot =>
    have last : ∀ later ∈ [x], ¬ holds later := List.forall_mem_singleton.2 isNot
    cases h with
    | found is others =>
      rw [List.append_assoc]
      exact .found is (List.forall_mem_append.2 ⟨others, last⟩)
    | missing others => exact .missing (List.forall_mem_append.2 ⟨others, last⟩)

/-- The newest entry is the first one that is found from the end. -/
lemma Newest.eq_find? (h : Newest holds history newest) :
    newest = history.reverse.find? (holds ·) := by
  cases h with
  | @found before after x is others =>
    refine (List.find?_eq_some_iff_append.2
      ⟨by simpa using is, after.reverse, before.reverse, by simp, fun later mem => ?_⟩).symm
    simpa using others later (List.mem_reverse.1 mem)
  | missing others =>
    refine (List.find?_eq_none.2 fun later mem => ?_).symm
    simpa using others later (List.mem_reverse.1 mem)

/-- If a step shows its own value where the condition holds of it, and else what was there before,
then a history of steps shows the value of the newest one that the condition holds of. -/
lemma exists_newest (view : σ → Option β) {step : σ → α → σ} {value : α → β}
    (one : ∀ s x, view (step s x) = if holds x then some (value x) else view s) {s : σ}
    (nothing : view s = none) (history : List α) :
    ∃ newest, Newest holds history newest ∧ view (history.foldl step s) = newest.map value := by
  induction history using List.reverseRecOn with
  | nil => exact ⟨none, .missing nofun, nothing⟩
  | append_singleton history x ih =>
    obtain ⟨newest, isNewest, shown⟩ := ih
    refine ⟨_, isNewest.append x, ?_⟩
    rw [List.foldl_concat, one, shown]
    split <;> rfl

end Histories

/-! ## Registries -/

/-- A change of a registry: a plugin is registered under its own name or under an identifier. -/
inductive Registration where
  | named (p : Plugin)
  | under (id : String) (p : Plugin)

namespace Registration

/-- The identifier that a plugin is registered under. -/
def id : Registration → String
  | named p => p.name
  | under id _ => id

/-- The plugin that is registered. -/
def plugin : Registration → Plugin
  | named p => p
  | under _ p => p

end Registration

namespace PluginRegistry

/-- A registry after one change. -/
def change (r : PluginRegistry) : Registration → PluginRegistry
  | .named p => r.register p
  | .under id p => r.registerAs id p

/-- A registry after a history of changes. -/
def changed (r : PluginRegistry) (history : List Registration) : PluginRegistry :=
  history.foldl change r

/-- Where a registry begins: with nothing in it or with the plugins of the library, as if these had
been registered before. -/
inductive Begins : PluginRegistry → List Registration → Prop where
  | empty : Begins {} []
  | library : Begins builtin (Plugin.builtin.map .named)

/-- The identifiers of a registry. -/
def ids (r : PluginRegistry) : List String := r.entries.map (·.1)

variable {r : PluginRegistry} {id id' : String} {p : Plugin} {earlier history : List Registration}

/-- A change registers a plugin under an identifier. -/
lemma change_eq (r : PluginRegistry) (c : Registration) :
    r.change c = r.registerAs c.id c.plugin := by
  cases c <;> rfl

/-- The last change of a history is made after all others. -/
lemma changed_concat (r : PluginRegistry) (history : List Registration) (c : Registration) :
    r.changed (history ++ [c]) = (r.changed history).registerAs c.id c.plugin := by
  rw [changed, List.foldl_concat, change_eq]
  rfl

/-- The first entry is found under its identifier. -/
lemma get?_cons_self (id : String) (p : Plugin) (es : List (String × Plugin)) :
    get? ⟨(id, p) :: es⟩ id = some p := by
  rw [get?, List.find?_cons_of_pos (by simp)]
  rfl

/-- The first entry is passed over under other identifiers. -/
lemma get?_cons_of_ne (other : id ≠ id') (p : Plugin) (es : List (String × Plugin)) :
    get? ⟨(id, p) :: es⟩ id' = get? ⟨es⟩ id' := by
  rw [get?, List.find?_cons_of_neg (by simpa using other)]
  rfl

/-- What is registered under an identifier is found there, and nothing else has changed. -/
lemma get?_registerAs (r : PluginRegistry) (id : String) (p : Plugin) (id' : String) :
    (r.registerAs id p).get? id' = if id = id' then some p else r.get? id' := by
  obtain ⟨entries⟩ := r
  unfold registerAs
  dsimp only
  induction entries with
  | nil =>
    rw [insertEntry]
    split
    case isTrue same => exact same ▸ get?_cons_self id p []
    case isFalse other => exact get?_cons_of_ne other p []
  | cons e es ih =>
    obtain ⟨known, q⟩ := e
    rw [insertEntry]
    by_cases here : known = id
    · obtain rfl := here
      rw [if_pos (beq_self_eq_true known)]
      split
      case isTrue same => exact same ▸ get?_cons_self known p es
      case isFalse other => rw [get?_cons_of_ne other, get?_cons_of_ne other]
    · rw [if_neg (by simpa using here)]
      by_cases there : known = id'
      · obtain rfl := there
        rw [get?_cons_self, get?_cons_self, if_neg (Ne.symm here)]
      · rw [get?_cons_of_ne there, get?_cons_of_ne there, ih]

/-- Registering adds an identifier at the end unless it is there. -/
lemma ids_registerAs (r : PluginRegistry) (id : String) (p : Plugin) :
    (r.registerAs id p).ids = if id ∈ r.ids then r.ids else r.ids ++ [id] := by
  obtain ⟨entries⟩ := r
  unfold registerAs ids
  induction entries with
  | nil => rfl
  | cons e es ih =>
    rw [insertEntry]
    by_cases here : e.1 = id
    · simp [here]
    · have different : id ≠ e.1 := Ne.symm here
      by_cases known : id ∈ es.map (·.1) <;> simpa [here, different, known] using ih

/-- The identifiers of a registry are those of its history, each of them once. -/
lemma ids_changed (history : List Registration) :
    (changed {} history).ids.Nodup ∧
      ∀ id, id ∈ (changed {} history).ids ↔ id ∈ history.map (·.id) := by
  induction history using List.reverseRecOn with
  | nil => exact ⟨List.nodup_nil, fun id => Iff.rfl⟩
  | append_singleton history c ih =>
    obtain ⟨once, known⟩ := ih
    rw [changed_concat, ids_registerAs, List.map_append]
    split
    case isTrue mem =>
      refine ⟨once, fun id => ?_⟩
      rw [known, List.mem_append, List.map_singleton, List.mem_singleton]
      refine ⟨.inl, ?_⟩
      rintro (old | rfl)
      · exact old
      · exact (known _).1 mem
    case isFalse new =>
      refine ⟨List.concat_eq_append ▸ once.concat new, fun id => ?_⟩
      rw [List.mem_append, known, List.mem_append]
      rfl

/-- A registry has as many plugins as its history has different identifiers. -/
lemma size_changed (history : List Registration) :
    (changed {} history).size = (history.map (·.id)).toFinset.card := by
  obtain ⟨once, known⟩ := ids_changed history
  have same : (history.map (·.id)).toFinset = (changed {} history).ids.toFinset := by
    ext id
    rw [List.mem_toFinset, List.mem_toFinset, known]
  rw [same, List.toFinset_card_of_nodup once, size, ids, List.length_map]

/-- What a registry begins with counts like the beginning of its history. -/
lemma Begins.changed_eq (h : Begins r earlier) (history : List Registration) :
    r.changed history = changed {} (earlier ++ history) := by
  cases h with
  | empty => rfl
  | library =>
    unfold changed
    rw [List.foldl_append]
    rfl

/-- A registry finds the newest plugin of its history under an identifier. -/
lemma exists_newest_changed (h : Begins r earlier) (history : List Registration) (id : String) :
    ∃ newest, Newest (·.id = id) (earlier ++ history) newest ∧
      (r.changed history).get? id = newest.map (·.plugin) := by
  rw [h.changed_eq]
  refine exists_newest (get? · id) (fun r c => ?_) rfl (earlier ++ history)
  rw [change_eq, get?_registerAs]

/-- One more change leaves what is found under other identifiers as it is. -/
lemma get?_changed_concat {c : Registration} (other : id ≠ c.id) (r : PluginRegistry)
    (history : List Registration) :
    (r.changed (history ++ [c])).get? id = (r.changed history).get? id := by
  rw [changed_concat, get?_registerAs, if_neg other.symm]

end PluginRegistry

/-! ## Installed plugins -/

/-- A plugin is installed in a directory under an identifier. -/
structure Installation where
  root : String
  id : String
  plugin : Plugin

namespace InstalledPlugins

/-- Installed plugins after a history of installations. -/
def installed (history : List Installation) : InstalledPlugins :=
  history.foldl (fun i j => i.install j.root j.id j.plugin) {}

section Directories

variable {dir root id : String} {r : PluginRegistry} {ds : List (String × PluginRegistry)}

/-- In a directory with the same components its registry is looked in. -/
lemma find?_cons_of_eq (same : Path.components dir = Path.components root) :
    find? ⟨(dir, r) :: ds⟩ id root = r.get? id := by
  rw [find?, List.find?_cons_of_pos (by simpa [Path.same] using same)]
  rfl

/-- In a directory with other components the registry is passed over. -/
lemma find?_cons_of_ne (other : Path.components dir ≠ Path.components root) :
    find? ⟨(dir, r) :: ds⟩ id root = find? ⟨ds⟩ id root := by
  rw [find?, List.find?_cons_of_neg (by simpa [Path.same] using other)]
  rfl

/-- What is installed in a directory is found there, and nothing else has changed. -/
lemma find?_install (i : InstalledPlugins) (root id : String) (p : Plugin) (id' root' : String) :
    (i.install root id p).find? id' root' =
      if id = id' ∧ Path.components root = Path.components root' then some p
      else i.find? id' root' := by
  obtain ⟨directories⟩ := i
  unfold install
  dsimp only
  induction directories with
  | nil =>
    rw [installIn]
    by_cases same : Path.components root = Path.components root'
    · rw [find?_cons_of_eq same, PluginRegistry.get?_registerAs]
      simp [same, find?, PluginRegistry.get?]
    · rw [find?_cons_of_ne same, if_neg (fun h => same h.2)]
  | cons d ds ih =>
    obtain ⟨dir, r⟩ := d
    rw [installIn]
    by_cases here : Path.components dir = Path.components root
    · rw [if_pos (by simpa [Path.same] using here)]
      by_cases same : Path.components root = Path.components root'
      · have found := here.trans same
        rw [find?_cons_of_eq found, find?_cons_of_eq found, PluginRegistry.get?_registerAs]
        simp [same]
      · have other : Path.components dir ≠ Path.components root' := here ▸ same
        rw [find?_cons_of_ne other, find?_cons_of_ne other, if_neg (fun h => same h.2)]
    · rw [if_neg (by simpa [Path.same] using here)]
      by_cases there : Path.components dir = Path.components root'
      · have other : Path.components root ≠ Path.components root' :=
          fun same => here (there.trans same.symm)
        rw [find?_cons_of_eq there, find?_cons_of_eq there, if_neg (fun h => other h.2)]
      · rw [find?_cons_of_ne there, find?_cons_of_ne there, ih]

end Directories

/-- In a directory the newest plugin installed there under an identifier is found. -/
lemma exists_newest_installed (history : List Installation) (id root : String) :
    ∃ newest,
      Newest (fun i => i.id = id ∧ Path.components i.root = Path.components root) history newest ∧
        (installed history).find? id root = newest.map (·.plugin) :=
  exists_newest (find? · id root) (fun i j => find?_install i j.root j.id j.plugin id root) rfl
    history

end InstalledPlugins

/-! ## Newest plugins -/

/-- After every history the newest plugin is found: in a directory the one installed last under the
identifier in a directory with the same components, and in a registry the one registered last under
the identifier, where a registry with the plugins of the library counts as one that these were
registered in before. Slashes behind a slash or at the end and dots between slashes do not change
the components of a path. A registry has as many plugins as there are different identifiers in its
history, and a change leaves what is found under all other identifiers as it is. -/
theorem registries_find_newest :
    (∀ history id root, ∃ newest,
      Newest (fun i => i.id = id ∧ Path.components i.root = Path.components root) history newest ∧
        (InstalledPlugins.installed history).find? id root = newest.map (·.plugin)) ∧
    (∀ a b, Path.components (a ++ "//" ++ b) = Path.components (a ++ "/" ++ b) ∧
      Path.components (a ++ "/./" ++ b) = Path.components (a ++ "/" ++ b)) ∧
    (∀ root, root ≠ "" → Path.components (root ++ "/") = Path.components root ∧
      Path.components (root ++ "/.") = Path.components root) ∧
    ∀ {r earlier}, PluginRegistry.Begins r earlier → ∀ history,
      (∀ id, ∃ newest, Newest (·.id = id) (earlier ++ history) newest ∧
        (r.changed history).get? id = newest.map (·.plugin)) ∧
      (r.changed history).size = ((earlier ++ history).map (·.id)).toFinset.card ∧
      ∀ c id, id ≠ c.id →
        (r.changed (history ++ [c])).get? id = (r.changed history).get? id := by
  refine ⟨InstalledPlugins.exists_newest_installed,
    fun a b => ⟨Path.components_double_slash a b, Path.components_inner_dot a b⟩,
    fun root some => ⟨Path.components_last_slash some, Path.components_last_dot some⟩,
    fun {r earlier} begins history =>
      ⟨PluginRegistry.exists_newest_changed begins history, ?_,
        fun c id other => PluginRegistry.get?_changed_concat other r history⟩⟩
  rw [begins.changed_eq]
  exact PluginRegistry.size_changed (earlier ++ history)

/-- Two spellings of one directory, and a registry that has one of the plugins of the library
replaced. -/
theorem registries_find_newest_respelled :
    let i := InstalledPlugins.installed [⟨"/app", "p", .removeDebugger⟩,
      ⟨"/other", "p", .removeDebugger⟩, ⟨"/app//./", "p", .stripConsole⟩]
    let r := PluginRegistry.builtin.changed
      [.under "p" .stripConsole, .under "strip-console" .removeDebugger]
    (i.find? "p" "/app").map (·.name) = some "strip-console" ∧
      (i.find? "p" "/other/").map (·.name) = some "remove-debugger" ∧
      (i.find? "q" "/app").map (·.name) = none ∧
      Path.components ("/other" ++ "/") = Path.components "/other" ∧
      (r.get? "strip-console").map (·.name) = some "remove-debugger" ∧ r.size = 3 := by
  intro i r
  obtain ⟨installed, -, ends, registered⟩ := registries_find_newest
  obtain ⟨found, size, -⟩ := registered .library
    [.under "p" .stripConsole, .under "strip-console" .removeDebugger]
  refine ⟨?_, ?_, ?_, (ends "/other" (by decide)).1, ?_, ?_⟩
  · obtain ⟨newest, isNewest, e⟩ := installed _ "p" "/app"
    rw [e, isNewest.eq_find?]
    decide +kernel
  · obtain ⟨newest, isNewest, e⟩ := installed _ "p" "/other/"
    rw [e, isNewest.eq_find?]
    decide +kernel
  · obtain ⟨newest, isNewest, e⟩ := installed _ "q" "/app"
    rw [e, isNewest.eq_find?]
    decide +kernel
  · obtain ⟨newest, isNewest, e⟩ := found "strip-console"
    rw [e, isNewest.eq_find?]
    decide +kernel
  · rw [size]
    decide +kernel

end ScriptMaps
