import ScriptMaps.CommandLine.Files
import ScriptMaps.Proofs.CommandLine.Operating
import ScriptMaps.Proofs.Pipeline.Debugging

/-!
# Written files

A file is written below a directory where the names in its path lead (`place_destination`), so two
files are written to one place exactly if they agree in these names (`destination_eq_iff`). Of files
that are written one after the other, each is found again unless a later one has the same place
(`exists_writeFiles`). Hooks that write files below a directory spare what lies beside it
(`spares_dumping`).
-/

namespace ScriptMaps.CommandLine

open Disk (Alters)

variable {dir : String} {d d' : Disk} {f g : OutputFile}

/-! ## Destinations -/

/-- The names in a path. -/
def downward (path : String) : List String := (Path.components path).filterMap downward?

/-- The names in a path are names. -/
lemma isName_of_mem_downward {path name : String} (h : name ∈ downward path) :
    Path.IsName name := by
  obtain ⟨component, mem, leads⟩ := List.mem_filterMap.1 h
  cases component with
  | name =>
    obtain rfl := Option.some.inj leads
    exact Path.isName_of_mem_components mem
  | root | here | up => cases leads

/-- A file is written where the names in its path lead from the directory. -/
lemma place_destination (d : Disk) (dir path : String) :
    d.place (destination dir path) = d.place dir ++ downward path :=
  Disk.place_join (fun _ mem => isName_of_mem_downward mem) d dir

/-- Files that agree in the names in their paths are written to one place, and no others. -/
lemma destination_eq_iff {a b : String} :
    destination dir a = destination dir b ↔ downward a = downward b := by
  constructor
  · intro h
    have places := congrArg (Disk.place {}) h
    rw [place_destination, place_destination] at places
    exact List.append_cancel_left places
  · intro h
    change Path.join dir ("/".intercalate (downward a)) = _
    rw [h]
    rfl

/-- Two files are written to one place exactly if the names in their paths are the same. -/
lemma place_destination_eq_iff {a b : String} :
    d.place (destination dir a) = d.place (destination dir b) ↔ downward a = downward b := by
  rw [place_destination, place_destination, List.append_right_inj]

/-! ## Writing -/

/-- What is written for a file. -/
def encoded (f : OutputFile) : ByteArray := (writtenText f).toUTF8

section Careful

variable {fs : FileSystem (StateM Disk)} (careful : fs.Careful)

include careful

/-- Writing a file changes nothing else, and the file holds what is to be written. -/
lemma exists_writeFile (dir : String) (f : OutputFile) (d : Disk) :
    ∃ result d', (writeFile fs dir f).run.run d = (result, d') ∧
      Alters (· = d.place (destination dir f.name)) d d' ∧
      (result = .ok () → d'.Holds (destination dir f.name) (encoded f)) := by
  unfold writeFile
  generalize destination dir f.name = path
  -- Writing comes last, from whatever disk it starts.
  have last (d : Disk) : ∃ result d',
      ((fs.write path (encoded f)).adapt (·.reportWhile ("failed to write " ++ path))).run.run d =
        (result, d') ∧ Alters (· = d.place path) d d' ∧
        (result = .ok () → d'.Holds path (encoded f)) := by
    rcases run : (fs.write path (encoded f)).run.run d with ⟨result, d'⟩
    refine ⟨_, d', run_adapt run _, careful.write run, fun ok => ?_⟩
    cases result with
    | ok => exact careful.written run
    | error fault => cases ok
  dsimp only
  cases Path.parent? path with
  | none => exact last d
  | some parent =>
    rcases run : (fs.makeDirectories parent).run.run d with ⟨made, d₁⟩
    have spared : Alters (· = d.place path) d d₁ :=
      (careful.makeDirectories run).mono fun _ => False.elim
    have first := run_adapt run FileFault.report
    cases made with
    | error fault => exact ⟨_, d₁, run_bind_error first, spared, nofun⟩
    | ok =>
      obtain ⟨result, d', written, change, holds⟩ := last d₁
      rw [spared.place] at change
      exact ⟨result, d', (run_bind_ok first).trans written, spared.trans change, holds⟩

/-- Of files that are written one after the other, only these are changed, and each holds what is to
be written unless a later one has the same place. -/
lemma exists_writeFiles (dir : String) (files : List OutputFile) (d : Disk) :
    ∃ result d', (files.forM (writeFile fs dir)).run.run d = (result, d') ∧
      Alters (fun l => ∃ f ∈ files, l = d.place (destination dir f.name)) d d' ∧
      (result = .ok () → ∀ before f after, files = before ++ f :: after →
        (∀ g ∈ after, downward g.name ≠ downward f.name) →
        d'.Holds (destination dir f.name) (encoded f)) := by
  induction files generalizing d with
  | nil =>
    refine ⟨.ok (), d, rfl, .refl _ d, fun _ before f after split => ?_⟩
    exact absurd split.symm (List.append_ne_nil_of_right_ne_nil _ (List.cons_ne_nil _ _))
  | cons g files ih =>
    obtain ⟨written, d₁, first, change, holds⟩ := exists_writeFile careful dir g d
    have now : Alters (fun l => ∃ f ∈ g :: files, l = d.place (destination dir f.name)) d d₁ :=
      change.mono fun l is => ⟨g, List.mem_cons_self, is⟩
    cases written with
    | error report => exact ⟨_, d₁, run_bind_error first, now, nofun⟩
    | ok =>
      obtain ⟨result, d', others, change', holds'⟩ := ih d₁
      simp only [change.place] at change'
      have later : Alters (fun l => ∃ f ∈ g :: files, l = d.place (destination dir f.name)) d₁ d' :=
        change'.mono fun l ⟨f, mem, is⟩ => ⟨f, List.mem_cons_of_mem _ mem, is⟩
      refine ⟨result, d', (run_bind_ok first).trans others, now.trans later,
        fun ok before f after split different => ?_⟩
      -- The first file is not touched again by those behind it, which have other places.
      obtain ⟨rfl, e⟩ | ⟨before', rfl, e⟩ := List.cons_eq_append_iff.1 split
      · obtain ⟨rfl, rfl⟩ := List.cons.inj e
        refine (holds rfl).alters change' ?_
        rintro ⟨other, mem, same⟩
        rw [change.place] at same
        exact different other mem (place_destination_eq_iff.1 same).symm
      · exact holds' ok before' f after e different

/-- Writing a file changes nothing beside the directory that it is written below. -/
lemma exists_writeFile_beside (dir : String) (f : OutputFile) (d : Disk) :
    ∃ result d', (writeFile fs dir f).run.run d = (result, d') ∧ d'.beside dir = d.beside dir := by
  obtain ⟨result, d', run, change, -⟩ := exists_writeFile careful dir f d
  refine ⟨result, d', run, change.beside fun l is => ?_⟩
  rw [is, place_destination]
  exact List.prefix_append _ _

/-- Hooks that write files below a directory spare what lies beside it. This holds of each of them
from any disk, so it does not depend on when they write. -/
lemma spares_dumping (dir : String) : (dumping fs dir).Spares (Disk.beside dir) := by
  intro f s
  refine ⟨rfl, fun d => ?_⟩
  obtain ⟨result, d', run, same⟩ := exists_writeFile_beside careful dir f d
  change Disk.beside dir ((writeFile fs dir f).run.run d).2 = _
  rw [run]
  exact same

end Careful

end ScriptMaps.CommandLine
