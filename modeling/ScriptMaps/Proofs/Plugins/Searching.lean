import ScriptMaps.Plugins.Resolver
import ScriptMaps.Proofs.Pipeline.Handling

/-!
# Searching plugins

An identifier is looked up from one directory after the other (`SearchOrder`), and the first lookup
that finds a plugin ends the search. A resolver may remember its lookups in a state. Whatever it
does, exactly the lookups up to the first hit are made, or all of them if there is none
(`resolvePlugin_search`). A registry has the same answer from everywhere, and searching it comes
down to looking for two of its identifiers (`run_resolvePlugin_registry`).
-/

namespace ScriptMaps

variable {σ : Type} {m : Type → Type} [Monad m]

/-- A lookup: the identifier, the directory it is seen from, and what is found. -/
structure Lookup where
  id : String
  root : String
  answer : Option Plugin

/-- What was asked in a lookup. -/
def Lookup.asked (l : Lookup) : String × String := (l.id, l.root)

/-- A resolver that writes down its lookups. -/
def Resolver.recorded (resolver : Resolver m) : Resolver (StateT (List Lookup) m) :=
  fun id root => do
    let answer ← resolver id root
    modify (· ++ [⟨id, root, answer⟩])
    return answer

/-- An identifier that already has the prefix of the packages of plugins. -/
def IsPrefixed (id : String) : Prop := ∃ name, id = pluginPrefix ++ name

/-- What there is to be looked up for an identifier: directory by directory, the identifier as it is
and then with the prefix, unless it has it. -/
inductive SearchOrder (id : String) : List String → List (String × String) → Prop where
  | none : SearchOrder id [] []
  | prefixed {root : String} {roots : List String} {order : List (String × String)} :
    IsPrefixed id → SearchOrder id roots order →
    SearchOrder id (root :: roots) ((id, root) :: order)
  | bare {root : String} {roots : List String} {order : List (String × String)} :
    ¬ IsPrefixed id → SearchOrder id roots order →
    SearchOrder id (root :: roots) ((id, root) :: (pluginPrefix ++ id, root) :: order)

/-- The answers of lookups are those of a resolver, from one state of it to another. -/
inductive Asked (resolver : Resolver (StateM σ)) : σ → List Lookup → σ → Prop where
  | none {s : σ} : Asked resolver s [] s
  | one {s s₁ s₂ : σ} {id root : String} {answer : Option Plugin} {made : List Lookup} :
    (resolver id root).run s = (answer, s₁) → Asked resolver s₁ made s₂ →
    Asked resolver s (⟨id, root, answer⟩ :: made) s₂

/-- How a search in an order ends: with the first lookup that finds a plugin, after which nothing is
looked up; or, if everything has been looked up and nothing was found, with a fault. -/
inductive SearchEnds (id : String) (order : List (String × String)) :
    List Lookup → Except ResolveFault Plugin → Prop where
  | found {misses : List Lookup} {hit : Lookup} {left : List (String × String)} {p : Plugin} :
    order = misses.map Lookup.asked ++ hit.asked :: left → (∀ l ∈ misses, l.answer = none) →
    hit.answer = some p → SearchEnds id order (misses ++ [hit]) (.ok p)
  | missed {misses : List Lookup} : order = misses.map Lookup.asked →
    (∀ l ∈ misses, l.answer = none) → SearchEnds id order misses (.error (.notFound id))

/-- A search for an identifier from directories: the lookups that are made, and how it ends. -/
structure Search (resolver : Resolver (StateM σ)) (id : String) (roots : List String) (s : σ)
    (made : List Lookup) (result : Except ResolveFault Plugin) (s' : σ) : Prop where
  asked : Asked resolver s made s'
  ends : ∃ order, SearchOrder id roots order ∧ SearchEnds id order made result

/-! ## Orders -/

section Orders

variable {id : String} {roots : List String} {order order' : List (String × String)}

/-- An identifier has the prefix exactly if its characters begin with those of the prefix. -/
lemma isPrefixed_iff : IsPrefixed id ↔ pluginPrefix.toList.isPrefixOf id.toList = true := by
  rw [List.isPrefixOf_iff_prefix]
  constructor
  · rintro ⟨name, rfl⟩
    rw [String.toList_append]
    exact List.prefix_append _ _
  · rintro ⟨rest, e⟩
    refine ⟨String.ofList rest, String.toList_injective ?_⟩
    rw [String.toList_append, String.toList_ofList, e]

/-- Whether an identifier has the prefix is seen from its characters. -/
instance : DecidablePred IsPrefixed := fun _ => decidable_of_iff _ isPrefixed_iff.symm

/-- A name behind the prefix is an identifier that has it. -/
lemma isPrefixed_append (name : String) : IsPrefixed (pluginPrefix ++ name) := ⟨name, rfl⟩

/-- An identifier without the prefix is also looked up with it. -/
lemma candidateIds_eq (id : String) :
    candidateIds id = if IsPrefixed id then [id] else [id, pluginPrefix ++ id] := by
  simp only [candidateIds, isPrefixed_iff]

/-- All lookups for an identifier are made in the order of the directories. -/
lemma searchOrder_lookups (id : String) (roots : List String) :
    SearchOrder id roots (lookups id roots) := by
  induction roots with
  | nil => exact .none
  | cons root roots ih =>
    have first : lookups id (root :: roots) =
        (candidateIds id).map (fun candidate => (candidate, root)) ++ lookups id roots := rfl
    rw [first, candidateIds_eq]
    split
    case isTrue has => exact .prefixed has ih
    case isFalse bare => exact .bare bare ih

/-- There is one order for an identifier and directories. -/
lemma SearchOrder.unique (h : SearchOrder id roots order) (h' : SearchOrder id roots order') :
    order = order' := by
  induction h generalizing order' with
  | none =>
    cases h'
    rfl
  | prefixed has _ ih =>
    cases h' with
    | prefixed _ others => rw [ih others]
    | bare lacks _ => exact absurd has lacks
  | bare lacks _ ih =>
    cases h' with
    | prefixed has _ => exact absurd has lacks
    | bare _ others => rw [ih others]

end Orders

/-! ## Step by step -/

/-- Lookups in an order up to the first that finds a plugin, one after the other. -/
inductive Searched (resolver : Resolver (StateM σ)) :
    σ → List (String × String) → List Lookup → Option Plugin → σ → Prop where
  | nothing {s : σ} : Searched resolver s [] [] none s
  | hit {s s' : σ} {id root : String} {p : Plugin} {order : List (String × String)} :
    (resolver id root).run s = (some p, s') →
    Searched resolver s ((id, root) :: order) [⟨id, root, some p⟩] (some p) s'
  | miss {s s₁ s₂ : σ} {id root : String} {order : List (String × String)} {made : List Lookup}
    {found : Option Plugin} : (resolver id root).run s = (none, s₁) →
    Searched resolver s₁ order made found s₂ →
    Searched resolver s ((id, root) :: order) (⟨id, root, none⟩ :: made) found s₂

/-- The result of a search, by the plugin that was found. -/
def searchResult (id : String) (found : Option Plugin) : Except ResolveFault Plugin :=
  found.elim (.error (.notFound id)) .ok

section Steps

variable {resolver : Resolver (StateM σ)} {id : String} {roots : List String}
variable {order : List (String × String)} {made made' : List Lookup} {found found' : Option Plugin}
variable {result result' : Except ResolveFault Plugin} {s s' s₁ s₂ : σ}

/-- A lookup that is written down is noted with its answer. -/
lemma run_recorded {root : String} {answer : Option Plugin}
    (h : (resolver id root).run s = (answer, s')) (notes : List Lookup) :
    ((resolver.recorded id root).run notes).run s =
      ((answer, notes ++ [⟨id, root, answer⟩]), s') := by
  unfold Resolver.recorded
  rw [StateT.run_bind, StateT.run_monadLift, StateT.run_bind, StateT.run_bind, monadLift_self, h]
  rfl

/-- The search for the first plugin goes step by step, whether lookups are written down or not. -/
lemma searched_firstFound (resolver : Resolver (StateM σ)) (order : List (String × String))
    (s : σ) :
    ∃ made found s', Searched resolver s order made found s' ∧
      (firstFound resolver order).run s = (found, s') ∧
      ∀ notes, ((firstFound resolver.recorded order).run notes).run s =
        ((found, notes ++ made), s') := by
  induction order generalizing s with
  | nil => exact ⟨[], none, s, .nothing, rfl, fun notes => by rw [List.append_nil]; rfl⟩
  | cons lookup order ih =>
    obtain ⟨id, root⟩ := lookup
    rcases first : (resolver id root).run s with ⟨answer, s₁⟩
    have noted := run_recorded first
    simp only [firstFound, StateT.run_bind, first, noted]
    cases answer with
    | some p => exact ⟨_, some p, s₁, .hit first, rfl, fun notes => rfl⟩
    | none =>
      obtain ⟨made, found, s', searched, run, recorded⟩ := ih s₁
      refine ⟨_, found, s', .miss first searched, run, fun notes => ?_⟩
      have others := recorded (notes ++ [⟨id, root, none⟩])
      rw [List.append_assoc] at others
      exact others

/-- Lookups made step by step are answered by the resolver. -/
lemma Searched.asked (h : Searched resolver s order made found s') : Asked resolver s made s' := by
  induction h with
  | nothing => exact .none
  | hit answered => exact .one answered .none
  | miss answered _ ih => exact .one answered ih

/-- Lookups made step by step end as a search does. -/
lemma Searched.ends (h : Searched resolver s order made found s') (id : String) :
    SearchEnds id order made (searchResult id found) := by
  induction h with
  | nothing => exact .missed rfl nofun
  | @hit _ _ candidate root p order _ =>
    have split : (candidate, root) :: order =
        List.map Lookup.asked [] ++ Lookup.asked ⟨candidate, root, some p⟩ :: order := rfl
    exact .found split nofun rfl
  | @miss _ _ _ candidate root order made found _ _ ih =>
    generalize searchResult id found = result at ih
    cases ih with
    | @found misses hit left p split missed answered =>
      have split' : (candidate, root) :: order =
          List.map Lookup.asked (⟨candidate, root, none⟩ :: misses) ++ hit.asked :: left :=
        congrArg ((candidate, root) :: ·) split
      exact .found split' (List.forall_mem_cons.2 ⟨rfl, missed⟩) answered
    | missed all missed =>
      refine .missed ?_ (List.forall_mem_cons.2 ⟨rfl, missed⟩)
      rw [all]
      rfl

/-- Lookups that are known to end a search were made step by step. -/
lemma SearchEnds.searched (h : SearchEnds id order made result) (asked : Asked resolver s made s') :
    ∃ found, result = searchResult id found ∧ Searched resolver s order made found s' := by
  cases h with
  | @found misses hit left p split missed answered =>
    refine ⟨some p, rfl, ?_⟩
    subst split
    -- The lookups before the one that is answered all miss.
    induction misses generalizing s with
    | nil =>
      cases asked with
      | one first others =>
        cases others
        cases answered
        exact .hit first
    | cons l misses ih =>
      obtain ⟨miss, more⟩ := List.forall_mem_cons.1 missed
      cases asked with
      | one first others =>
        cases miss
        exact .miss first (ih more others)
  | missed all missed =>
    refine ⟨none, rfl, ?_⟩
    subst all
    induction made generalizing s with
    | nil =>
      cases asked
      exact .nothing
    | cons l made ih =>
      obtain ⟨miss, more⟩ := List.forall_mem_cons.1 missed
      cases asked with
      | one first others =>
        cases miss
        exact .miss first (ih others more)

/-- The steps are determined by the state they begin with. -/
lemma Searched.unique (h : Searched resolver s order made found s₁)
    (h' : Searched resolver s order made' found' s₂) : made = made' ∧ found = found' ∧ s₁ = s₂ := by
  induction h generalizing made' found' with
  | nothing =>
    cases h'
    exact ⟨rfl, rfl, rfl⟩
  | hit answered =>
    cases h' with
    | hit answered' =>
      cases answered.symm.trans answered'
      exact ⟨rfl, rfl, rfl⟩
    | miss answered' _ => exact nomatch answered.symm.trans answered'
  | miss answered _ ih =>
    cases h' with
    | hit answered' => exact nomatch answered.symm.trans answered'
    | miss answered' others =>
      cases answered.symm.trans answered'
      obtain ⟨rfl, rfl, rfl⟩ := ih others
      exact ⟨rfl, rfl, rfl⟩

/-! ## Searches -/

/-- An identifier is resolved by a search, whether lookups are written down or not. -/
lemma exists_search (resolver : Resolver (StateM σ)) (id : String) (roots : List String) (s : σ) :
    ∃ made result s', Search resolver id roots s made result s' ∧
      (resolvePlugin resolver id roots).run.run s = (result, s') ∧
      ∀ notes, performed (resolvePlugin resolver.recorded id roots) notes s =
        ((result, notes ++ made), s') := by
  obtain ⟨made, found, s', searched, run, recorded⟩ :=
    searched_firstFound resolver (lookups id roots) s
  have order := searchOrder_lookups id roots
  refine ⟨made, searchResult id found, s', ⟨searched.asked, _, order, searched.ends id⟩, ?_, ?_⟩
  · have lifted : (ExceptT.lift (firstFound resolver (lookups id roots)) :
        ExceptT ResolveFault (StateM σ) _).run.run s = (.ok found, s') := by
      rw [ExceptT.run_lift, StateT.run_map, run]
      rfl
    unfold resolvePlugin
    rw [run_bind_ok lifted]
    cases found with
    | some p => rfl
    | none => rfl
  · intro notes
    unfold resolvePlugin
    rw [performed_bind_ok (performed_lift (recorded notes))]
    cases found with
    | some p => rfl
    | none => rfl

/-- The lookups of a search and its result are determined by the state it begins with. -/
lemma Search.unique (h : Search resolver id roots s made result s₁)
    (h' : Search resolver id roots s made' result' s₂) :
    made = made' ∧ result = result' ∧ s₁ = s₂ := by
  obtain ⟨asked, order, isOrder, ends⟩ := h
  obtain ⟨asked', order', isOrder', ends'⟩ := h'
  obtain rfl := isOrder.unique isOrder'
  obtain ⟨found, rfl, searched⟩ := ends.searched asked
  obtain ⟨found', rfl, searched'⟩ := ends'.searched asked'
  obtain ⟨rfl, rfl, rfl⟩ := searched.unique searched'
  exact ⟨rfl, rfl, rfl⟩

end Steps

/-! ## Registries -/

namespace PluginRegistry

/-- The plugin that a registry has for an identifier: the one registered under it, or else the one
registered under it with the prefix, unless it has it. -/
def plugin? (r : PluginRegistry) (id : String) : Option Plugin :=
  if IsPrefixed id then r.get? id else (r.get? id).or (r.get? (pluginPrefix ++ id))

/-- A registry resolves an identifier to the plugin it has for it. -/
lemma resolve?_eq (r : PluginRegistry) (id : String) : r.resolve? id = r.plugin? id := by
  rw [resolve?, plugin?, candidateIds_eq]
  split
  case isTrue => exact List.findSome?_singleton
  case isFalse =>
    rw [List.findSome?_cons, List.findSome?_singleton]
    cases r.get? id with
    | some p => rfl
    | none => rfl

/-- A registry that has no plugin for an identifier has none for it with the prefix. -/
lemma plugin?_append (r : PluginRegistry) {id : String} (bare : ¬ IsPrefixed id)
    (missing : r.plugin? id = none) : r.plugin? (pluginPrefix ++ id) = none := by
  rw [plugin?, if_pos (isPrefixed_append id)]
  rw [plugin?, if_neg bare, Option.or_eq_none_iff] at missing
  exact missing.2

end PluginRegistry

section Registries

variable [LawfulMonad m] {id : String} {roots : List String} {order : List (String × String)}

/-- Lookups in a registry find the plugin it has, whatever the directories are. -/
lemma firstFound_registry (r : PluginRegistry) (isOrder : SearchOrder id roots order)
    (some : roots ≠ []) :
    firstFound (r.resolver : Resolver m) order = pure (r.plugin? id) := by
  -- The first lookup is answered unless all others are not: the answer depends on no directory.
  have missed (missing : r.plugin? id = none) {roots order} (isOrder : SearchOrder id roots order) :
      firstFound (r.resolver : Resolver m) order = pure none := by
    induction isOrder with
    | none => rfl
    | prefixed _ _ ih =>
      rw [firstFound, PluginRegistry.resolver, r.resolve?_eq, missing, pure_bind]
      exact ih
    | bare lacks _ ih =>
      rw [firstFound, PluginRegistry.resolver, r.resolve?_eq, missing, pure_bind]
      dsimp only
      rw [firstFound, PluginRegistry.resolver, r.resolve?_eq, r.plugin?_append lacks missing,
        pure_bind]
      exact ih
  cases found : r.plugin? id with
  | none => exact missed found isOrder
  | some p =>
    cases isOrder with
    | none => exact absurd rfl some
    | prefixed | bare =>
      rw [firstFound, PluginRegistry.resolver, r.resolve?_eq, found, pure_bind]

/-- Resolving in a registry gives the plugin it has, or a fault. -/
lemma run_resolvePlugin_registry (r : PluginRegistry) (id : String) (some : roots ≠ []) :
    (resolvePlugin (r.resolver : Resolver m) id roots).run =
      pure (searchResult id (r.plugin? id)) := by
  unfold resolvePlugin
  rw [ExceptT.run_bind, ExceptT.run_lift, firstFound_registry r (searchOrder_lookups id roots) some,
    map_pure, pure_bind]
  cases r.plugin? id with
  | some p => rfl
  | none => rfl

end Registries

/-- A resolver is asked directory by directory, for the identifier as it is and then with the
prefix, unless it has it. It is asked up to the first hit, which is the result; or it is asked for
all there is, and the fault names the identifier that was to be resolved. A registry gives the
plugin it has for the identifier, or else for the identifier with the prefix, whatever the
directories are.
-/
theorem resolvePlugin_search :
    (∀ {σ : Type} (resolver : Resolver (StateM σ)) (id : String) (roots : List String) (s : σ),
      ∃ made result s', Search resolver id roots s made result s' ∧
        performed (resolvePlugin resolver.recorded id roots) [] s = ((result, made), s') ∧
        (resolvePlugin resolver id roots).run.run s = (result, s')) ∧
    ∀ {m : Type → Type} [Monad m] [LawfulMonad m] (r : PluginRegistry) (id : String)
      (roots : List String), roots ≠ [] →
      (resolvePlugin (r.resolver : Resolver m) id roots).run =
        pure (searchResult id (r.plugin? id)) := by
  refine ⟨fun resolver id roots s => ?_,
    fun r id roots some => run_resolvePlugin_registry r id some⟩
  obtain ⟨made, result, s', search, run, recorded⟩ := exists_search resolver id roots s
  exact ⟨made, result, s', search, recorded [], run⟩

/-- A resolver that counts its lookups and has a plugin only at the third, and a registry that has
one under the identifier with the prefix.
-/
theorem resolvePlugin_search_third :
    let resolver : Resolver (StateM Nat) := fun _ _ n =>
      (if n = 2 then some .removeDebugger else none, n + 1)
    let roots : List String := ["/app/tools", "/app"]
    let r : PluginRegistry := PluginRegistry.registerAs {} "sdc-plugin-quiet" .stripConsole
    (∃ made p, Search resolver "foo" roots 0 made (.ok p) 3 ∧ p.name = "remove-debugger" ∧
      made.map Lookup.asked =
        [("foo", "/app/tools"), ("sdc-plugin-foo", "/app/tools"), ("foo", "/app")]) ∧
    roots ≠ [] ∧ (resolvePlugin (r.resolver : Resolver Id) "quiet" roots).run =
      .ok .stripConsole := by
  intro resolver roots r
  obtain ⟨searched, registered⟩ := resolvePlugin_search
  obtain ⟨made, result, s', search, recorded, _⟩ := searched resolver "foo" roots 0
  have third : performed (resolvePlugin resolver.recorded "foo" roots) [] 0 =
      ((.ok .removeDebugger, [⟨"foo", "/app/tools", none⟩, ⟨"sdc-plugin-foo", "/app/tools", none⟩,
        ⟨"foo", "/app", some .removeDebugger⟩]), 3) := rfl
  cases recorded.symm.trans third
  have some : roots ≠ [] := List.cons_ne_nil _ _
  exact ⟨⟨_, _, search, rfl, rfl⟩, some, registered r "quiet" roots some⟩

end ScriptMaps
