import ScriptMaps.CommandLine.Disk
import ScriptMaps.Proofs.Except
import ScriptMaps.Proofs.Files.Paths

/-!
# Changes of disks

There are no links, so where a path leads is known from the working directory alone (`Disk.place`):
following it on a disk only decides whether it leads there. So what an operation may change is a
matter of places. Writing changes the file at one place (`alters_write`), making directories changes
no file (`alters_makeDirectories`), and both leave directories where they are (`Alters`). So a path
that could be followed can be followed from then on, and a file holds what was written to it until
it is written again (`Holds.alters`).
-/

namespace ScriptMaps.CommandLine.Disk

/-- The location that steps lead to from a location. A step upwards takes off the last name. -/
def walk (here : Location) : List String → Location
  | [] => here
  | step :: rest =>
    if step == "" || step == "." then walk here rest
    else if step == ".." then walk here.dropLast rest
    else walk (here ++ [step]) rest

/-- The location that a path leads to, whatever stands there. -/
def place (d : Disk) (path : String) : Location := walk (d.startOf path) (Path.pieces path)

/-- The contents of the file at a location. -/
def file? (d : Disk) (l : Location) : Option ByteArray :=
  match d.get? l with
  | some (.file contents) => some contents
  | _ => none

/-- A disk that comes of another by changes of files at some locations only. Directories stay where
they are. -/
structure Alters (places : Location → Prop) (d d' : Disk) : Prop where
  workingDirectory : d'.workingDirectory = d.workingDirectory
  directory : ∀ l, d.get? l = some .directory → d'.get? l = some .directory
  files : ∀ l, ¬ places l → d'.file? l = d.file? l

variable {d d' d'' : Disk} {here l l' : Location} {steps : List String} {path : String}
variable {contents : ByteArray} {places : Location → Prop}

/-! ## Places -/

/-- Steps behind others lead on from where those lead. -/
lemma walk_append (here : Location) (steps steps' : List String) :
    walk here (steps ++ steps') = walk (walk here steps) steps' := by
  induction steps generalizing here with
  | nil => rfl
  | cons step steps ih =>
    rw [List.cons_append, walk, walk]
    split
    · exact ih here
    · split
      · exact ih here.dropLast
      · exact ih (here ++ [step])

/-- Names lead downwards. -/
lemma walk_names {names : List String} (h : ∀ n ∈ names, Path.IsName n) (here : Location) :
    walk here names = here ++ names := by
  induction names generalizing here with
  | nil => rw [walk, List.append_nil]
  | cons n names ih =>
    obtain ⟨isName, others⟩ := List.forall_mem_cons.1 h
    rw [walk, if_neg (by simp [isName.nonempty, isName.notHere]), if_neg (by simp [isName.notUp]),
      ih others, List.append_assoc]
    rfl

/-- An empty step leads nowhere else. -/
lemma walk_empty (here : Location) : walk here [""] = here := rfl

/-- The pieces of names that are put together lead downwards by the names. -/
lemma walk_pieces_intercalate {names : List String} (h : ∀ n ∈ names, Path.IsName n)
    (here : Location) : walk here (Path.pieces ("/".intercalate names)) = here ++ names := by
  cases names with
  | nil =>
    rw [String.intercalate_nil, List.append_nil]
    exact walk_empty here
  | cons n names =>
    rw [Path.pieces_intercalate (fun n mem => (h n mem).noSlash) (List.cons_ne_nil _ _),
      walk_names h]

/-- A path of names below a directory leads downwards from where that leads. -/
lemma place_join {names : List String} (h : ∀ n ∈ names, Path.IsName n) (d : Disk) (dir : String) :
    d.place (Path.join dir ("/".intercalate names)) = d.place dir ++ names := by
  have relative := Path.head?_intercalate h
  have start : d.startOf (Path.join dir ("/".intercalate names)) = d.startOf dir := by
    simp only [startOf, beq_iff_eq, Path.head?_join relative]
  obtain ⟨before, pieces, same⟩ := @Path.pieces_join dir _ relative
  have directory : walk (d.startOf dir) before = d.place dir := by
    rw [place]
    obtain same | same := same
    · rw [same]
    · rw [same, walk_append, walk_empty]
  rw [place, start, pieces, walk_append, directory, walk_pieces_intercalate h]

/-- Where steps can be followed they lead to their place. -/
lemma follow_eq_ok (h : d.follow here steps = .ok l) : l = walk here steps := by
  induction steps generalizing here with
  | nil => exact (Except.ok.inj h).symm
  | cons step rest ih =>
    rw [follow] at h
    rw [walk]
    split at h
    case isTrue idle => rw [if_pos idle, ih h]
    case isFalse notIdle =>
      rw [if_neg notIdle]
      split at h
      case isTrue up => rw [if_pos up, ih h]
      case isFalse notUp =>
        rw [if_neg notUp]
        split at h
        case isTrue => cases h
        case isFalse =>
          split at h
          case isTrue last =>
            rw [List.isEmpty_iff.1 last, walk]
            exact (Except.ok.inj h).symm
          case isFalse =>
            split at h
            case h_1 => exact ih h
            case h_2 => cases h
            case h_3 => cases h

/-- Where a path can be followed it leads to its place. -/
lemma locate_eq_ok (h : d.locate path = .ok l) : l = d.place path := by
  unfold locate at h
  split at h
  · cases h
  · split at h
    · cases h
    · exact follow_eq_ok h

/-! ## Alterations -/

namespace Alters

/-- A disk that stays as it is has not changed anywhere. -/
lemma refl (places : Location → Prop) (d : Disk) : Alters places d d :=
  ⟨rfl, fun _ h => h, fun _ _ => rfl⟩

/-- Changes at some places that are made one after the other are changes at these. -/
lemma trans (h : Alters places d d') (h' : Alters places d' d'') : Alters places d d'' where
  workingDirectory := h'.workingDirectory.trans h.workingDirectory
  directory l is := h'.directory l (h.directory l is)
  files l outside := (h'.files l outside).trans (h.files l outside)

/-- Changes at some places are changes at these and more. -/
lemma mono {places' : Location → Prop} (h : Alters places d d')
    (sub : ∀ l, places l → places' l) : Alters places' d d' :=
  ⟨h.workingDirectory, h.directory, fun l outside => h.files l (mt (sub l) outside)⟩

/-- Changes of files do not change where paths lead. -/
lemma place (h : Alters places d d') (path : String) : d'.place path = d.place path := by
  rw [Disk.place, Disk.place, startOf, startOf, h.workingDirectory]

/-- Steps that could be followed can be followed after a change of files. -/
lemma follow (h : Alters places d d') (followed : d.follow here steps = .ok l) :
    d'.follow here steps = .ok l := by
  -- All steps but the last lead to directories, and these stay.
  induction steps generalizing here with
  | nil => exact followed
  | cons step rest ih =>
    rw [Disk.follow] at followed ⊢
    split at followed
    case isTrue idle => rw [if_pos idle, ih followed]
    case isFalse notIdle =>
      rw [if_neg notIdle]
      split at followed
      case isTrue up => rw [if_pos up, ih followed]
      case isFalse notUp =>
        rw [if_neg notUp]
        split at followed
        case isTrue => cases followed
        case isFalse short =>
          rw [if_neg short]
          split at followed
          case isTrue last => rw [if_pos last, followed]
          case isFalse notLast =>
            rw [if_neg notLast]
            split at followed
            case h_1 is =>
              rw [h.directory _ is]
              exact ih followed
            case h_2 => cases followed
            case h_3 => cases followed

/-- A path that could be followed can be followed after a change of files. -/
lemma locate (h : Alters places d d') (located : d.locate path = .ok l) :
    d'.locate path = .ok l := by
  have start : d'.startOf path = d.startOf path := by rw [startOf, startOf, h.workingDirectory]
  unfold Disk.locate at located ⊢
  split at located
  case isTrue => cases located
  case isFalse nonempty =>
    rw [if_neg nonempty]
    split at located
    case isTrue => cases located
    case isFalse short =>
      rw [if_neg short, start]
      exact h.follow located

end Alters

/-! ## Operations -/

/-- The root is a directory. -/
lemma get?_root (d : Disk) : d.get? [] = some .directory := rfl

/-- Below the root there stands what has an entry. -/
lemma get?_of_ne (notRoot : l ≠ []) : d.get? l = (d.entries.find? (·.1 == l)).map (·.2) :=
  if_neg (by simpa using notRoot)

/-- What is put at a location stands there, and nothing else has changed. -/
lemma get?_insert (notRoot : l ≠ []) (e : Entry) (l' : Location) :
    (d.insert l e).get? l' = if l' = l then some e else d.get? l' := by
  by_cases root : l' = []
  · rw [root, get?_root, get?_root, if_neg notRoot.symm]
  · have others : (d.entries.filter (·.1 != l)).find? (·.1 == l') =
        if l' = l then none else d.entries.find? (·.1 == l') := by
      rw [List.find?_filter]
      by_cases same : l' = l
      · rw [if_pos same, List.find?_eq_none]
        simp [same]
      · rw [if_neg same]
        congr 1
        funext entry
        by_cases there : entry.1 = l' <;> simp [there, same]
    rw [get?_of_ne root, get?_of_ne root, insert]
    by_cases same : l' = l
    · rw [if_pos same, List.find?_cons_of_pos (by simp [same])]
      rfl
    · rw [if_neg same, List.find?_cons_of_neg (by simpa using Ne.symm same), others, if_neg same]

/-- What is put at one location leaves the files at all others. -/
lemma file?_insert (notRoot : l ≠ []) (e : Entry) (different : l' ≠ l) :
    (d.insert l e).file? l' = d.file? l' := by
  rw [file?, file?, get?_insert notRoot, if_neg different]

/-- A file may be put where no directory is. -/
lemma alters_insert_file (notDirectory : d.get? l ≠ some .directory) :
    Alters (· = l) d (d.insert l (.file contents)) := by
  have notRoot : l ≠ [] := by
    rintro rfl
    exact notDirectory (get?_root d)
  refine ⟨rfl, fun l' is => ?_, fun l' different => file?_insert notRoot _ different⟩
  rw [get?_insert notRoot, if_neg, is]
  rintro rfl
  exact notDirectory is

/-- A directory that is put where nothing is changes no file. -/
lemma alters_insert_directory (missing : d.get? l = none) :
    Alters (fun _ => False) d (d.insert l .directory) := by
  have notRoot : l ≠ [] := by
    rintro rfl
    exact nomatch (get?_root d).symm.trans missing
  refine ⟨rfl, fun l' is => ?_, fun l' _ => ?_⟩
  · rw [get?_insert notRoot, is, ite_self]
  · by_cases same : l' = l
    · rw [same, file?, file?, get?_insert notRoot, if_pos rfl, missing]
    · exact file?_insert notRoot _ same

/-- Making directories changes no file, as one is only put where nothing is. -/
lemma alters_makeFrom (h : d.makeFrom here steps = .ok d') : Alters (fun _ => False) d d' := by
  induction steps generalizing d here with
  | nil =>
    obtain rfl := Except.ok.inj h
    exact .refl _ d
  | cons step rest ih =>
    rw [makeFrom] at h
    split at h
    · exact ih h
    · split at h
      · exact ih h
      · split at h
        · cases h
        · split at h
          case h_1 => exact ih h
          case h_2 => cases h
          case h_3 missing => exact (alters_insert_directory missing).trans (ih h)

/-- Making the directories of a path changes no file. -/
lemma alters_makeDirectories (h : d.makeDirectories path = .ok d') :
    Alters (fun _ => False) d d' := by
  unfold makeDirectories at h
  split at h
  · cases h
  · exact alters_makeFrom h

/-! ## Files -/

/-- A path leads to a file with some contents. -/
structure Holds (d : Disk) (path : String) (contents : ByteArray) : Prop where
  located : d.locate path = .ok (d.place path)
  contents : d.file? (d.place path) = some contents

/-- What a file holds is what is read from it. -/
lemma Holds.read (h : d.Holds path contents) : d.read path = .ok contents := by
  obtain ⟨located, is⟩ := h
  unfold Disk.read
  rw [located, Except.ok_bind]
  unfold file? at is
  split at is
  case h_1 found =>
    obtain rfl := Option.some.inj is
    rw [found]
    rfl
  case h_2 => cases is

/-- A file holds what it held if other files are changed. -/
lemma Holds.alters (h : d.Holds path contents) (change : Alters places d d')
    (other : ¬ places (d.place path)) : d'.Holds path contents where
  located := by rw [change.place, change.locate h.located]
  contents := by rw [change.place, change.files _ other, h.contents]

/-- Writing changes one file only, which then holds what was written. -/
lemma alters_write (h : d.write path contents = .ok d') :
    Alters (· = d.place path) d d' ∧ d'.Holds path contents := by
  unfold write at h
  obtain ⟨l, located, h⟩ := Except.bind_eq_ok.1 h
  obtain rfl := locate_eq_ok located
  split at h
  case h_1 => cases h
  case h_2 notDirectory =>
    obtain rfl := Except.ok.inj h
    have change : Alters (· = d.place path) d (d.insert (d.place path) (.file contents)) :=
      alters_insert_file notDirectory
    have notRoot : d.place path ≠ [] := by
      intro root
      rw [root] at notDirectory
      exact notDirectory (get?_root d)
    refine ⟨change, ?_, ?_⟩
    · rw [change.place, change.locate located]
    · rw [change.place, file?, get?_insert notRoot, if_pos rfl]

/-! ## What lies beside a directory -/

/-- What is seen of a disk beside a directory: where paths start, and the files that do not lie
below the directory. -/
def beside (dir : String) (d : Disk) : Location × (Location → Option ByteArray) :=
  (d.workingDirectory, fun l => if d.place dir <+: l then none else d.file? l)

section Beside

variable {dir dir' : String}

/-- Changes below a directory are not seen beside it. -/
lemma Alters.beside (h : Alters places d d') (below : ∀ l, places l → d.place dir <+: l) :
    d'.beside dir = d.beside dir := by
  refine Prod.ext h.workingDirectory (funext fun l => ?_)
  simp only [Disk.beside, h.place]
  split
  case isTrue => rfl
  case isFalse outside => exact h.files l (mt (below l) outside)

/-- Paths lead to the same places if the same is seen beside a directory. -/
lemma place_of_beside (h : d'.beside dir = d.beside dir) (path : String) :
    d'.place path = d.place path := by
  have start : d'.workingDirectory = d.workingDirectory := congrArg Prod.fst h
  rw [place, place, startOf, startOf, start]

/-- The files beside a directory are the same if the same is seen there. -/
lemma file?_of_beside (h : d'.beside dir = d.beside dir) (outside : ¬ d.place dir <+: l) :
    d'.file? l = d.file? l := by
  have files := congrFun (congrArg Prod.snd h) l
  have outside' : ¬ d'.place dir <+: l := by rwa [place_of_beside h]
  simpa only [beside, if_neg outside, if_neg outside'] using files

/-- What lies beside a directory lies beside those below it. -/
lemma beside_mono (h : d'.beside dir = d.beside dir) (below : d.place dir' <+: d.place dir) :
    d'.beside dir' = d.beside dir' := by
  have start : d'.workingDirectory = d.workingDirectory := congrArg Prod.fst h
  refine Prod.ext start (funext fun l => ?_)
  simp only [beside, place_of_beside h]
  split
  case isTrue => rfl
  case isFalse outside => exact file?_of_beside h fun isIn => outside (below.trans isIn)

end Beside

/-- Two disks differ at most below a directory, and not at all if none is given. -/
def DiffersBelow (dir : Option String) (d d' : Disk) : Prop :=
  match dir with
  | none => d' = d
  | some dir => d'.beside dir = d.beside dir

namespace DiffersBelow

variable {dir : Option String}

/-- A disk that stays as it is does not differ. -/
lemma refl (dir : Option String) (d : Disk) : DiffersBelow dir d d := by
  cases dir <;> rfl

/-- Differences below a directory that come one after the other are below it. -/
lemma trans (h : DiffersBelow dir d d') (h' : DiffersBelow dir d' d'') :
    DiffersBelow dir d d'' := by
  cases dir <;> exact Eq.trans h' h

/-- What differs below directories in a directory differs below that. -/
lemma mono {within : String → String} (below : ∀ x, d.place x <+: d.place (within x))
    (h : DiffersBelow (dir.map within) d d') : DiffersBelow dir d d' := by
  cases dir with
  | none => exact h
  | some x => exact beside_mono h (below x)

/-- Differences below a directory do not change where paths lead. -/
lemma place (h : DiffersBelow dir d d') (path : String) : d'.place path = d.place path := by
  cases dir with
  | none => rw [show d' = d from h]
  | some x => exact place_of_beside h path

/-- Files outside of the directory are the same. -/
lemma file? (h : DiffersBelow dir d d') (outside : ∀ x ∈ dir, ¬ d.place x <+: l) :
    d'.file? l = d.file? l := by
  cases dir with
  | none => rw [show d' = d from h]
  | some x => exact file?_of_beside h (outside x rfl)

end DiffersBelow

end ScriptMaps.CommandLine.Disk
