import ScriptMaps.Proofs.CommandLine.Stopping
import ScriptMaps.Proofs.Files.Joining

/-!
# Destinations

Of a file's name only the pieces that are names count for where it is written
(`downward_eq_filter`). So whatever slashes, dots and steps upwards a name is made of, its
destination is a path of names below the directory (`components_destination_eq`). No run changes a
file that lies neither below the directory of its results nor below the one of its dumps
(`exists_place_of_changed`).
-/

namespace ScriptMaps.CommandLine

variable {dir name : String}

/-! ## Names -/

/-- A piece leads downwards if and only if it is a name. -/
lemma component?_bind_downward? {piece : String} (noSlash : '/' ∉ piece.toList) :
    (Path.component? piece).bind downward? = if Path.IsName piece then some piece else none := by
  split
  case isTrue isName =>
    rw [Path.component?_of_isName isName]
    rfl
  case isFalse notName =>
    cases stands : Path.component? piece with
    | none => rfl
    | some c =>
      cases c with
      | root | here | up => rfl
      | name s =>
        obtain ⟨rfl, nonempty, notHere, notUp⟩ := Path.component?_eq_name stands
        exact absurd ⟨nonempty, notHere, notUp, noSlash⟩ notName

/-- The names in a path are those of its pieces that are names. -/
lemma downward_eq_filter (path : String) :
    downward path = (Path.pieces path).filter (Path.IsName ·) := by
  obtain ⟨start, begins, whole⟩ := Path.exists_components path
  have nowhere : start.filterMap downward? = [] := by
    refine List.filterMap_eq_nil_iff.2 fun c mem => ?_
    obtain rfl | rfl := begins c mem <;> rfl
  rw [downward, whole, List.filterMap_append, nowhere, List.nil_append, List.filterMap_filterMap,
    ← List.filterMap_eq_filter]
  refine List.filterMap_congr fun piece mem => ?_
  rw [component?_bind_downward? (Path.slash_not_mem_of_mem_pieces mem)]
  simp [Option.guard]

/-! ## Below a directory -/

/-- A destination has the components of the directory and then the names in the path. -/
lemma components_destination_eq (dir name : String) :
    Path.components (destination dir name) =
      Path.components dir ++ (downward name).map .name :=
  Path.components_join (fun _ mem => isName_of_mem_downward mem) dir

/-- A destination begins with a slash only if the directory does. -/
lemma head?_destination :
    (destination dir name).toList.head? = some '/' ↔ dir.toList.head? = some '/' :=
  Path.head?_join (Path.head?_intercalate fun _ mem => isName_of_mem_downward mem)

/-- Names are no steps upwards. -/
lemma count_up_names (names : List String) : (names.map Path.Component.name).count .up = 0 := by
  refine List.count_eq_zero.2 fun mem => ?_
  obtain ⟨n, -, up⟩ := List.mem_map.1 mem
  cases up

/-! ## Runs -/

/-- A run only changes files below the directory of its results and below the one of its dumps. -/
lemma exists_place_of_changed {fs : FileSystem (StateM Disk)} (careful : fs.Careful)
    {args inputs : List String} {verbosity : Nat} {outDir config debugDir : Option String}
    {d d' : Disk} {outcome : Outcome} {l : Location}
    (asked : Request.ofArguments args = .command verbosity (.run inputs outDir config debugDir))
    (ran : (execute fs args).run d = (outcome, d')) (changed : d'.file? l ≠ d.file? l) :
    ∃ dir, (outDir = some dir ∨ debugDir = some dir) ∧ d.place dir <+: l := by
  by_contra nowhere
  have outside {dir : String} (given : outDir = some dir ∨ debugDir = some dir) :
      ¬ d.place dir <+: l := fun below => nowhere ⟨dir, given, below⟩
  refine changed ?_
  -- A session that stops has only dumped files, and any other dumps files before it writes some.
  obtain ⟨r, stops⟩ | ⟨configured, batch, results, d₁, reaches⟩ := execute_cases careful asked ran
  · exact (stops.differs careful).file? fun dir given => outside (.inr given)
  have dumped := reaches.differs careful
  have sofar : d₁.file? l = d.file? l := dumped.file? fun dir given => outside (.inr given)
  have ends := execute_of_reaches asked ran reaches
  cases outDir with
  | none => rw [ends.2, sofar]
  | some out =>
    obtain ⟨result, written, -⟩ := ends
    obtain ⟨result', d₂, written', change, -⟩ := exists_writeFiles careful out results d₁
    obtain ⟨rfl, rfl⟩ := Prod.mk.inj (written'.symm.trans written)
    refine (change.files l ?_).trans sofar
    rintro ⟨f, -, is⟩
    refine outside (.inl rfl) ?_
    rw [is, place_destination, dumped.place]
    exact List.prefix_append _ _

/-- The destination of a file below a directory has the components of the directory, followed by the
names in the path of the file, which are the pieces that stand for no root, no dot and no step
upwards. So it lies in the directory or below it, begins with a root only if that does, and has no
steps upwards but those of the directory; and writing the file changes none that does not lie below
the directory. All that a run writes are such files, so whether it succeeds or fails, each file that
it changes lies below the directory of its results or below the one of its dumps. There are no
links, by which a path below a directory could lead out of it. -/
theorem components_destination :
    (∀ dir name : String,
      Path.components (destination dir name) =
          Path.components dir ++ (downward name).map .name ∧
        downward name = (Path.pieces name).filter (Path.IsName ·) ∧
        Path.components dir <+: Path.components (destination dir name) ∧
        ((destination dir name).toList.head? = some '/' ↔ dir.toList.head? = some '/') ∧
        (Path.components (destination dir name)).count .up = (Path.components dir).count .up) ∧
    ∀ {fs : FileSystem (StateM Disk)}, fs.Careful →
      (∀ dir f d, ∃ result d', (writeFile fs dir f).run.run d = (result, d') ∧
        d'.beside dir = d.beside dir) ∧
      ∀ {args inputs : List String} {verbosity : Nat} {outDir config debugDir : Option String}
        {d d' : Disk} {outcome : Outcome},
        Request.ofArguments args = .command verbosity (.run inputs outDir config debugDir) →
        (execute fs args).run d = (outcome, d') → ∀ l, d'.file? l ≠ d.file? l →
          ∃ dir, (outDir = some dir ∨ debugDir = some dir) ∧ d.place dir <+: l := by
  refine ⟨fun dir name => ?_, fun careful => ⟨exists_writeFile_beside careful,
    fun asked ran l changed => exists_place_of_changed careful asked ran changed⟩⟩
  have whole := components_destination_eq dir name
  refine ⟨whole, downward_eq_filter name, ?_, head?_destination, ?_⟩
  · rw [whole]
    exact List.prefix_append _ _
  · rw [whole, List.count_append, count_up_names, Nat.add_zero]

/-- A file that is named with slashes before and behind each other and with steps to nowhere and
upwards. It is not written where it is read from. -/
theorem components_destination_upwards :
    let name := "//../work/.//../a.txt"
    let d : Disk := ⟨[(["work"], .directory), (["a.txt"], .file "a".toUTF8)], ["work"]⟩
    let args := ["run", "-o", "out/", "--debug-dir", "../dump", name]
    Disk.fileSystem.Careful ∧
    Path.components (destination "out/" name) = [.name "out", .name "work", .name "a.txt"] ∧
    Request.ofArguments args = .command 0 (.run [name] (some "out/") none (some "../dump")) ∧
    ∃ outcome d', (execute Disk.fileSystem args).run d = (outcome, d') ∧
      (∃ dir, (some "out/" = some dir ∨ some "../dump" = some dir) ∧
        d.place dir <+: ["work", "out", "work", "a.txt"]) ∧
      d'.file? ["work", "out", "work", "a.txt"] = some "a".toUTF8 ∧
      d'.file? ["a.txt"] = some "a".toUTF8 := by
  intro name d args
  obtain ⟨places, writes⟩ := components_destination
  obtain ⟨whole, names, -⟩ := places "out/" name
  obtain ⟨-, runs⟩ := writes careful_fileSystem
  have pieces : (Path.pieces name).filter (Path.IsName ·) = ["work", "a.txt"] := by decide +kernel
  have asked : Request.ofArguments args =
      .command 0 (.run [name] (some "out/") none (some "../dump")) := by decide +kernel
  rcases ran : (execute Disk.fileSystem args).run d with ⟨outcome, d'⟩
  have written : ((execute Disk.fileSystem args).run d).2.file?
      ["work", "out", "work", "a.txt"] = some "a".toUTF8 := by decide +kernel
  rw [ran] at written
  have changed : d'.file? ["work", "out", "work", "a.txt"] ≠
      d.file? ["work", "out", "work", "a.txt"] := by
    rw [written]
    decide +kernel
  have kept : d'.file? ["a.txt"] = d.file? ["a.txt"] := by
    by_contra other
    obtain ⟨dir, given | given, below⟩ := runs asked ran ["a.txt"] other
    · obtain rfl := Option.some.inj given
      exact absurd below (by decide +kernel)
    · obtain rfl := Option.some.inj given
      exact absurd below (by decide +kernel)
  rw [names, pieces] at whole
  exact ⟨careful_fileSystem, whole, asked, outcome, d', rfl, runs asked ran _ changed, written,
    kept⟩

end ScriptMaps.CommandLine
