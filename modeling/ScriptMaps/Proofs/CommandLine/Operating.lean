import ScriptMaps.CommandLine.Disk
import ScriptMaps.Proofs.CommandLine.Disks
import ScriptMaps.Proofs.Pipeline.Handling

/-!
# File systems on disks

What can be relied on of a file system on disks (`FileSystem.Careful`): reading changes nothing,
making directories changes no file, and writing changes at most the file that is written, which is
complete if that succeeds. Apart from that an operation may fail for any reason, and writing may
fail half way. Disks themselves are such a file system (`careful_fileSystem`). There are no links on
disks, so where a path leads is known from the path and the working directory: a step upwards goes
by names.
-/

namespace ScriptMaps.CommandLine

open Disk (Alters)

variable {ε α β : Type} {d : Disk}

/-! ## Computations that only look at a disk -/

/-- A computation leaves every disk as it is. -/
def Leaves (x : ExceptT ε (StateM Disk) α) : Prop := ∀ d, ∃ result, x.run.run d = (result, d)

namespace Leaves

/-- What only gives a result leaves every disk as it is. -/
lemma pure (a : α) : Leaves (pure a : ExceptT ε (StateM Disk) α) := fun _ => ⟨.ok a, rfl⟩

/-- What only fails leaves every disk as it is. -/
lemma throw (e : ε) : Leaves (throw e : ExceptT ε (StateM Disk) α) := fun _ => ⟨.error e, rfl⟩

/-- Steps that leave every disk as it is do so one after the other. -/
lemma bind {x : ExceptT ε (StateM Disk) α} {f : α → ExceptT ε (StateM Disk) β} (h : Leaves x)
    (h' : ∀ a, Leaves (f a)) : Leaves (x >>= f) := by
  intro d
  obtain ⟨result, first⟩ := h d
  cases result with
  | error e => exact ⟨.error e, run_bind_error first⟩
  | ok a =>
    obtain ⟨result, next⟩ := h' a d
    exact ⟨result, (run_bind_ok first).trans next⟩

/-- What a fault is turned into does not matter to the disk. -/
lemma adapt {ε' : Type} {x : ExceptT ε (StateM Disk) α} (h : Leaves x) (wrap : ε → ε') :
    Leaves (x.adapt wrap) := by
  intro d
  obtain ⟨result, run⟩ := h d
  exact ⟨result.mapError wrap, run_adapt run wrap⟩

/-- A list is gone through without a change if that is so for each element. -/
lemma mapM {f : α → ExceptT ε (StateM Disk) β} (h : ∀ a, Leaves (f a)) (as : List α) :
    Leaves (as.mapM f) := by
  induction as with
  | nil => exact .pure []
  | cons a as ih =>
    rw [List.mapM_cons]
    exact (h a).bind fun _ => ih.bind fun _ => .pure _

/-- The result is known, and so is the disk. -/
lemma run_eq {x : ExceptT ε (StateM Disk) α} (h : Leaves x) {result : Except ε α}
    (e : (x.run.run d).1 = result) : x.run.run d = (result, d) := by
  obtain ⟨_, run⟩ := h d
  rw [run] at e ⊢
  exact congrArg (·, d) e

end Leaves

/-! ## Operations -/

/-- A file system on disks changes no more than it is asked to. This is a file system without links:
writing changes the file at the place of its path, where a step upwards takes off the last name
before it (`Disk.place`). With a link on the way a path could lead to a file at another place. -/
structure FileSystem.Careful (fs : FileSystem (StateM Disk)) : Prop where
  workingDirectory : Leaves fs.workingDirectory
  read : ∀ path, Leaves (fs.read path)
  makeDirectories : ∀ {path d result d'}, (fs.makeDirectories path).run.run d = (result, d') →
    Alters (fun _ => False) d d'
  write : ∀ {path contents d result d'}, (fs.write path contents).run.run d = (result, d') →
    Alters (· = d.place path) d d'
  written : ∀ {path contents d d'}, (fs.write path contents).run.run d = (.ok (), d') →
    d'.Holds path contents

/-- What is done to a disk by a change that may fail. -/
lemma run_changing (change : Disk → Except FileFault Disk) (d : Disk) :
    (∃ fault, (Disk.changing change).run.run d = (.error fault, d)) ∨
      ∃ d', (Disk.changing change).run.run d = (.ok (), d') ∧ change d = .ok d' := by
  have now : (get : ExceptT FileFault (StateM Disk) Disk).run.run d = (.ok d, d) := rfl
  rw [Disk.changing, run_bind_ok now]
  cases change d with
  | ok d' => exact .inr ⟨d', rfl, rfl⟩
  | error fault => exact .inl ⟨fault, rfl⟩

/-- Disks themselves are a careful file system. -/
theorem careful_fileSystem : Disk.fileSystem.Careful where
  workingDirectory d := ⟨.ok ("/" ++ "/".intercalate d.workingDirectory), rfl⟩
  read path d := by
    have now : (get : ExceptT FileFault (StateM Disk) Disk).run.run d = (.ok d, d) := rfl
    dsimp only [Disk.fileSystem]
    rw [run_bind_ok now]
    cases d.read path with
    | ok contents => exact ⟨.ok contents, rfl⟩
    | error fault => exact ⟨.error fault, rfl⟩
  makeDirectories {path d result d'} run := by
    obtain ⟨fault, same⟩ | ⟨d₁, made, change⟩ := run_changing (·.makeDirectories path) d
    · obtain ⟨-, rfl⟩ := Prod.mk.inj (same.symm.trans run)
      exact .refl _ _
    · obtain ⟨-, rfl⟩ := Prod.mk.inj (made.symm.trans run)
      exact Disk.alters_makeDirectories change
  write {path contents d result d'} run := by
    obtain ⟨fault, same⟩ | ⟨d₁, made, change⟩ := run_changing (·.write path contents) d
    · obtain ⟨-, rfl⟩ := Prod.mk.inj (same.symm.trans run)
      exact .refl _ _
    · obtain ⟨-, rfl⟩ := Prod.mk.inj (made.symm.trans run)
      exact (Disk.alters_write change).1
  written {path contents d d'} run := by
    obtain ⟨fault, same⟩ | ⟨d₁, made, change⟩ := run_changing (·.write path contents) d
    · exact nomatch same.symm.trans run
    · obtain ⟨-, rfl⟩ := Prod.mk.inj (made.symm.trans run)
      exact (Disk.alters_write change).2

end ScriptMaps.CommandLine
