import ScriptMaps.Json.Value
import Mathlib.Data.String.Basic
import Mathlib.Tactic

/-!
# Members of objects

What is found under a key after members were put under keys, and in what order the members are then.
-/

namespace ScriptMaps.Json.Members

/-- The members are in the order of their keys, and no key is there twice. -/
def Ascending (ms : Members) : Prop := ms.Pairwise fun m n => m.1 < n.1

variable {ms : Members} {key other : String} {v : Value}

/-- The first member is found under its key, and the others under theirs. -/
lemma find?_cons (key other : String) (v : Value) (ms : Members) :
    find? ((key, v) :: ms) other = if other = key then some v else ms.find? other := by
  by_cases same : other = key
  · simp [find?, same]
  · simp [find?, same, Ne.symm same]

/-- A value is found under the key it was put under. -/
@[simp]
lemma find?_insert_self (key : String) (v : Value) (ms : Members) :
    (ms.insert key v).find? key = some v := by
  induction ms with
  | nil => simp [insert, find?]
  | cons m ms ih =>
    unfold find? at ih ⊢
    rw [insert]
    split
    · simp
    · split
      · simp
      · simp_all [Ne.symm]

/-- What is under other keys stays. -/
lemma find?_insert_of_ne (different : other ≠ key) :
    (ms.insert key v).find? other = ms.find? other := by
  induction ms with
  | nil => simp [insert, find?, different.symm]
  | cons m ms ih =>
    unfold find? at ih ⊢
    rw [insert]
    split
    case isTrue same =>
      obtain rfl : key = m.1 := by simpa using same
      simp [different.symm]
    case isFalse =>
      split
      · simp [different.symm]
      · rw [List.find?_cons, List.find?_cons]
        split
        · rfl
        · exact ih

/-- A value that may be missing is found under its key if it is there. -/
lemma find?_insertSome (key other : String) (v : Option Value) (ms : Members) :
    (ms.insertSome key v).find? other =
      if other = key then v.or (ms.find? other) else ms.find? other := by
  cases v with
  | none => simp [insertSome]
  | some v =>
    by_cases same : other = key
    · subst same
      simp [insertSome]
    · rw [if_neg same]
      exact find?_insert_of_ne same

/-- A member whose key comes after all others is put last. -/
lemma insert_of_forall_lt (last : ∀ m ∈ ms, m.1 < key) : ms.insert key v = ms ++ [(key, v)] := by
  induction ms with
  | nil => rfl
  | cons m ms ih =>
    have first := last m List.mem_cons_self
    have different : (key == m.1) = false := beq_eq_false_iff_ne.2 first.ne'
    rw [insert, different, if_neg (by decide), if_neg first.not_gt,
      ih fun m mem => last m (List.mem_cons_of_mem _ mem), List.cons_append]

/-- The members of a list are its entries if these are in order. -/
lemma Ascending.ofEntries (h : Ascending ms) : ofEntries ms = ms := by
  have put : ∀ (before ms : Members), Ascending (before ++ ms) →
      ms.foldl (fun found m => found.insert m.1 m.2) before = before ++ ms := by
    intro before ms
    induction ms generalizing before with
    | nil => simp
    | cons m ms ih =>
      intro ordered
      have last : ∀ n ∈ before, n.1 < m.1 :=
        fun n mem => (List.pairwise_append.1 ordered).2.2 n mem m List.mem_cons_self
      rw [List.foldl_cons, insert_of_forall_lt last, ih _ (by simpa using ordered)]
      simp
  exact put [] ms h

/-- A member after another was put in is that one or was there before. -/
lemma mem_insert {m : String × Value} (h : m ∈ ms.insert key v) : m = (key, v) ∨ m ∈ ms := by
  induction ms with
  | nil => exact .inl (List.mem_singleton.1 h)
  | cons n ms ih =>
    rw [insert] at h
    split at h
    case isTrue =>
      obtain rfl | mem := List.mem_cons.1 h
      · exact .inl rfl
      · exact .inr (List.mem_cons_of_mem _ mem)
    case isFalse =>
      split at h
      case isTrue =>
        obtain rfl | mem := List.mem_cons.1 h
        · exact .inl rfl
        · exact .inr mem
      case isFalse =>
        obtain rfl | mem := List.mem_cons.1 h
        · exact .inr List.mem_cons_self
        · exact (ih mem).imp_right (List.mem_cons_of_mem _)

/-- Members stay in order when another is put in. -/
lemma Ascending.insert (h : ms.Ascending) : (ms.insert key v).Ascending := by
  induction ms with
  | nil => exact List.pairwise_singleton _ _
  | cons n ms ih =>
    obtain ⟨first, others⟩ := List.pairwise_cons.1 h
    rw [Members.insert]
    split
    case isTrue same =>
      obtain rfl : key = n.1 := by simpa using same
      exact List.pairwise_cons.2 ⟨first, others⟩
    case isFalse different =>
      have different : key ≠ n.1 := by simpa using different
      split
      case isTrue before =>
        refine List.pairwise_cons.2 ⟨fun m mem => ?_, h⟩
        obtain rfl | mem := List.mem_cons.1 mem
        · exact before
        · exact lt_trans before (first m mem)
      case isFalse after =>
        refine List.pairwise_cons.2 ⟨fun m mem => ?_, ih others⟩
        obtain rfl | mem := mem_insert mem
        · exact lt_of_le_of_ne (not_lt.1 after) different.symm
        · exact first m mem

/-- The members of entries are in order and are among the entries. -/
lemma ofEntries_spec (entries : List (String × Value)) :
    (ofEntries entries).Ascending ∧ ∀ m ∈ ofEntries entries, m ∈ entries := by
  have put : ∀ ms : Members, ms.Ascending →
      (entries.foldl (fun ms e => ms.insert e.1 e.2) ms).Ascending ∧
        ∀ m ∈ entries.foldl (fun ms e => ms.insert e.1 e.2) ms, m ∈ ms ∨ m ∈ entries := by
    induction entries with
    | nil => exact fun ms ascending => ⟨ascending, fun m mem => .inl mem⟩
    | cons e entries ih =>
      intro ms ascending
      obtain ⟨ordered, among⟩ := ih (ms.insert e.1 e.2) ascending.insert
      refine ⟨ordered, fun m mem => ?_⟩
      obtain mem | mem := among m mem
      · obtain rfl | mem := mem_insert mem
        · exact .inr List.mem_cons_self
        · exact .inl mem
      · exact .inr (List.mem_cons_of_mem _ mem)
  obtain ⟨ordered, among⟩ := put [] List.Pairwise.nil
  exact ⟨ordered, fun m mem => (among m mem).resolve_left (List.not_mem_nil)⟩

/-- Members stay in order when one that may be missing is put in. -/
lemma Ascending.insertSome {v : Option Value} (h : ms.Ascending) :
    (ms.insertSome key v).Ascending := by
  cases v with
  | none => exact h
  | some v => exact h.insert

/-- A member that is put in unless its key is there is found under its key only then. -/
lemma find?_insertNew (key other : String) (v : Value) (ms : Members) :
    (ms.insertNew key v).find? other =
      if other = key then (ms.find? other).or (some v) else ms.find? other := by
  unfold insertNew
  by_cases same : other = key
  · subst same
    rw [if_pos rfl]
    cases there : ms.find? other with
    | none => simp
    | some w => simp [there]
  · rw [if_neg same]
    split
    · rfl
    · exact find?_insert_of_ne same

/-- Members that are put in unless their keys are there are found under keys that were not. -/
lemma find?_foldl_insertNew (base : Members) (key : String) :
    (ms.foldl (fun found m => found.insertNew m.1 m.2) base).find? key =
      (base.find? key).or (ms.find? key) := by
  induction ms generalizing base with
  | nil => simp [find?]
  | cons m ms ih =>
    rw [List.foldl_cons, ih, find?_insertNew, find?_cons]
    split
    · rw [Option.or_assoc, Option.some_or]
    · rfl

/-! ## Members by what is found in them -/

/-- What is not found among the first members is looked for among the others. -/
lemma find?_append (ms ms' : Members) (key : String) :
    find? (ms ++ ms') key = (ms.find? key).or (ms'.find? key) := by
  unfold find?
  rw [List.find?_append, Option.map_or]

/-- Of entries with one key the last is found. -/
lemma find?_ofEntries (entries : List (String × Value)) (key : String) :
    (ofEntries entries).find? key = find? entries.reverse key := by
  have put : ∀ ms : Members, (entries.foldl (fun ms e => ms.insert e.1 e.2) ms).find? key =
      (find? entries.reverse key).or (ms.find? key) := by
    induction entries with
    | nil => exact fun ms => rfl
    | cons e entries ih =>
      intro ms
      rw [List.foldl_cons, ih, List.reverse_cons, find?_append, Option.or_assoc]
      by_cases same : key = e.1
      · subst same
        rw [find?_insert_self, find?_cons, if_pos rfl, Option.some_or]
      · rw [find?_insert_of_ne same, find?_cons, if_neg same]
        rfl
  exact (put []).trans Option.or_none

/-- What is found is a member. -/
lemma mem_of_find? (found : ms.find? key = some v) : (key, v) ∈ ms := by
  obtain ⟨m, first, rfl⟩ := Option.map_eq_some_iff.1 found
  have same : m.1 = key := by simpa using List.find?_some first
  exact same ▸ List.mem_of_find?_eq_some first

/-- Nothing is found under a key that no member has. -/
lemma find?_eq_none (missing : ∀ m ∈ ms, m.1 ≠ key) : ms.find? key = none := by
  cases found : ms.find? key with
  | none => rfl
  | some v => exact absurd rfl (missing (key, v) (mem_of_find? found))

/-- Of members in order each is found under its key. -/
lemma Ascending.find?_of_mem (h : ms.Ascending) (mem : (key, v) ∈ ms) : ms.find? key = some v := by
  induction ms with
  | nil => cases mem
  | cons m ms ih =>
    obtain ⟨first, others⟩ := List.pairwise_cons.1 h
    obtain ⟨other, w⟩ := m
    rw [find?_cons]
    rcases List.mem_cons.1 mem with same | mem
    · cases same
      exact if_pos rfl
    · rw [if_neg (first _ mem).ne', ih others mem]

/-- Members in order are the same if the same is found under all keys. -/
lemma Ascending.ext {ms' : Members} (h : ms.Ascending) (h' : ms'.Ascending)
    (same : ∀ key, ms.find? key = ms'.find? key) : ms = ms' := by
  have nodup {ms : Members} (h : ms.Ascending) : ms.Nodup := h.imp fun less => fun e => by
    rw [e] at less
    exact lt_irrefl _ less
  have perm : ms.Perm ms' := by
    rw [List.perm_ext_iff_of_nodup (nodup h) (nodup h')]
    rintro ⟨key, v⟩
    constructor
    · intro mem
      exact mem_of_find? ((same key).symm.trans (h.find?_of_mem mem))
    · intro mem
      exact mem_of_find? ((same key).trans (h'.find?_of_mem mem))
  exact perm.eq_of_pairwise (fun m n _ _ less less' => absurd less' less.not_gt) h h'

/-- Of members in order those are found that are kept. -/
lemma Ascending.find?_filter (h : ms.Ascending) (p : String × Value → Bool) (key : String) :
    find? (ms.filter p) key = (ms.find? key).filter fun v => p (key, v) := by
  cases found : ms.find? key with
  | none =>
    apply find?_eq_none
    rintro ⟨other, v⟩ mem rfl
    rw [h.find?_of_mem (List.mem_of_mem_filter mem)] at found
    cases found
  | some v =>
    have mem := mem_of_find? found
    rw [Option.filter_some]
    split
    case isTrue kept =>
      have ascending : Ascending (ms.filter p) := List.Pairwise.filter p h
      exact ascending.find?_of_mem (List.mem_filter.2 ⟨mem, kept⟩)
    case isFalse dropped =>
      apply find?_eq_none
      rintro ⟨other, w⟩ mem' rfl
      obtain ⟨mem', kept⟩ := List.mem_filter.1 mem'
      rw [h.find?_of_mem mem'] at found
      cases found
      exact dropped kept

/-- Members stay in order when one is put in unless its key is there. -/
lemma Ascending.insertNew (h : ms.Ascending) : (ms.insertNew key v).Ascending := by
  unfold Members.insertNew
  split
  case isTrue => exact h
  case isFalse => exact h.insert

end ScriptMaps.Json.Members
