import ScriptMaps.Proofs.Json.Members
import ScriptMaps.Proofs.Json.Numbers
import ScriptMaps.Proofs.Json.Objects

/-!
# Reading back values

A value can be kept (`Value.Within`) if the numbers in it can, if the members of its objects are in
order, and if it is not nested too deeply. Such a value is read back from its text
(`value_writeValue`) with its numbers as they are read back. Integers are read back as they are, so
a value all of whose numbers are integers is read back unchanged.
-/

namespace ScriptMaps.Json

/-- An integer of 64 bits, with or without sign. -/
inductive Number.IsWhole : Number → Prop where
  | integer {n : Int} : -2 ^ 63 ≤ n → n < 2 ^ 64 → IsWhole (.integer n)

/-- A value of numbers of one kind, with members in order, that is nested at most to a depth. -/
inductive Value.Within (numbers : Number → Prop) : Nat → Value → Prop where
  | null {depth : Nat} : Within numbers depth .null
  | bool {depth : Nat} {b : Bool} : Within numbers depth (.bool b)
  | number {depth : Nat} {n : Number} : numbers n → Within numbers depth (.number n)
  | string {depth : Nat} {s : String} : Within numbers depth (.string s)
  | array {depth : Nat} {elems : List Value} :
    (∀ v ∈ elems, Within numbers depth v) → Within numbers (depth + 1) (.array elems)
  | object {depth : Nat} {members : Members} : members.Ascending →
    (∀ m ∈ members, Within numbers depth m.2) → Within numbers (depth + 1) (.object members)

/-- A value all of whose numbers are integers of 64 bits. -/
inductive Value.IsWhole : Value → Prop where
  | null : IsWhole .null
  | bool {b : Bool} : IsWhole (.bool b)
  | number {n : Number} : n.IsWhole → IsWhole (.number n)
  | string {s : String} : IsWhole (.string s)
  | array {elems : List Value} : (∀ v ∈ elems, IsWhole v) → IsWhole (.array elems)
  | object {members : Members} : (∀ m ∈ members, IsWhole m.2) → IsWhole (.object members)

/-- What a number is read as once it is written. -/
def Number.reread (n : Number) : Number :=
  match Reader.value 0 (writeNumber n) with
  | .ok (.number m, _) => m
  | _ => n

/-- A number can be read once it is written. -/
def Number.IsReadable (n : Number) : Prop := Reader.ReadsNumber (writeNumber n) n.reread

mutual

/-- What a value is read as once it is written. -/
def Value.reread : Value → Value
  | .number n => .number n.reread
  | .array elems => .array (rereadElements elems)
  | .object members => .object (rereadMembers members)
  | v => v

/-- What the elements of an array are read as. -/
def Value.rereadElements : List Value → List Value
  | [] => []
  | v :: vs => v.reread :: rereadElements vs

/-- What the members of an object are read as. -/
def Value.rereadMembers : Members → Members
  | [] => []
  | (key, v) :: ms => (key, v.reread) :: rereadMembers ms

end

/-- A value of numbers of one kind is one of numbers of a wider kind. -/
lemma Value.Within.imp {p q : Number → Prop} (wider : ∀ n, p n → q n) {depth : Nat} {v : Value}
    (h : v.Within p depth) : v.Within q depth := by
  induction h with
  | null => exact .null
  | bool => exact .bool
  | number n => exact .number (wider _ n)
  | string => exact .string
  | array _ ih => exact .array ih
  | object ascending _ ih => exact .object ascending ih

/-- A value may be nested less deeply than allowed. -/
lemma Value.Within.deeper {numbers : Number → Prop} {depth depth' : Nat} {v : Value}
    (h : v.Within numbers depth) (le : depth ≤ depth') : v.Within numbers depth' := by
  induction h generalizing depth' with
  | null => exact .null
  | bool => exact .bool
  | number n => exact .number n
  | string => exact .string
  | array _ ih =>
    obtain ⟨depth', rfl⟩ := Nat.exists_eq_add_one.2 (Nat.zero_lt_of_lt le)
    exact .array fun v mem => ih v mem (Nat.le_of_succ_le_succ le)
  | object ascending _ ih =>
    obtain ⟨depth', rfl⟩ := Nat.exists_eq_add_one.2 (Nat.zero_lt_of_lt le)
    exact .object ascending fun m mem => ih m mem (Nat.le_of_succ_le_succ le)

/-- The elements of an array are read one by one. -/
lemma Value.rereadElements_eq_map (elems : List Value) :
    rereadElements elems = elems.map reread := by
  induction elems with
  | nil => rfl
  | cons v vs ih => rw [rereadElements, ih, List.map_cons]

/-- The members of an object are read one by one and keep their keys. -/
lemma Value.rereadMembers_eq_map (ms : Members) :
    rereadMembers ms = ms.map fun m => (m.1, m.2.reread) := by
  induction ms with
  | nil => rfl
  | cons m ms ih => rw [rereadMembers, ih, List.map_cons]

/-- The elements of an array are written one by one. -/
lemma writeElements_eq_map (elems : List Value) : writeElements elems = elems.map writeValue := by
  induction elems with
  | nil => rfl
  | cons v vs ih => rw [writeElements, ih, List.map_cons]

namespace Reader

/-- A text that is no container is read as a scalar. -/
lemma value_scalar (depth : Nat) {c : Char} {text : List Char} (blank : isBlank c = false)
    (noContainer : c ≠ '[' ∧ c ≠ '\x7b') : value depth (c :: text) = scalar c (c :: text) := by
  obtain ⟨notList, notObject⟩ := noContainer
  cases depth with
  | zero =>
    rw [value, bind_ok (peekPart_cons blank)]
    simp
  | succ depth =>
    rw [value, bind_ok (peekPart_cons blank)]
    simp

/-- A written null is read back. -/
lemma value_null (depth : Nat) (rest : List Char) :
    value depth ("null".toList ++ rest) = .ok (.null, rest) := by
  change value depth ('n' :: ("ull".toList ++ rest)) = _
  rw [value_scalar depth rfl (by decide)]
  exact bump_word 'n' "ull".toList Value.null rest

/-- A written truth value is read back. -/
lemma value_bool (depth : Nat) (b : Bool) (rest : List Char) :
    value depth ((toString b).toList ++ rest) = .ok (.bool b, rest) := by
  cases b with
  | true =>
    change value depth ('t' :: ("rue".toList ++ rest)) = _
    rw [value_scalar depth rfl (by decide)]
    exact bump_word 't' "rue".toList (Value.bool true) rest
  | false =>
    change value depth ('f' :: ("alse".toList ++ rest)) = _
    rw [value_scalar depth rfl (by decide)]
    exact bump_word 'f' "alse".toList (Value.bool false) rest

/-- A written string is read back. -/
lemma value_string (depth : Nat) (s : String) (rest : List Char) :
    value depth (writeString s ++ rest) = .ok (.string s, rest) := by
  change value depth ('"' :: _) = _
  rw [value_scalar depth rfl (by decide)]
  change (string true >>= fun s => pure (Value.string s)) (writeString s ++ rest) = _
  rw [bind_ok (string_writeString s rest)]
  rfl

/-- What is written as a list is read as an array. -/
lemma value_list (depth : Nat) (ts : List (List Char)) (rest : List Char) :
    value (depth + 1) (writeList ts ++ rest) =
      (list (depth + 1) (value depth) >>= fun elems => pure (Value.array elems))
        (writeList ts ++ rest) := rfl

/-- What is written as an object is read as an object. -/
lemma value_object (depth : Nat) (ts : List (List Char)) (rest : List Char) :
    value (depth + 1) (writeObject ts ++ rest) =
      (object (depth + 1) (valueMember (value depth)) [] >>= fun entries =>
        pure (Value.object (Members.ofEntries entries.reverse))) (writeObject ts ++ rest) := rfl

/-- A number begins with what no other part of a text begins with. -/
lemma startsNumber {c : Char} (h : c = '-' ∨ c.isDigit) :
    isBlank c = false ∧ c ≠ ']' ∧ c ≠ '[' ∧ c ≠ '{' := by
  have isBlank_eq : isBlank c = true → c = ' ' ∨ c = '\n' ∨ c = '\t' ∨ c = '\r' := by
    simp [isBlank, or_assoc]
  obtain rfl | digit := h
  · decide
  · refine ⟨?_, ?_, ?_, ?_⟩
    · rw [← Bool.not_eq_true]
      intro blank
      obtain rfl | rfl | rfl | rfl := isBlank_eq blank <;> cases digit
    all_goals
      rintro rfl
      cases digit

/-- The value of a member is read after the colon. -/
lemma valueMember_cons {element : Reader Value} {found : Members} {key : String} {v : Value}
    {text rest : List Char} (read : element text = .ok (v, rest)) :
    valueMember element found key (':' :: text) = .ok ((key, v) :: found, rest) := by
  rw [valueMember, bind_ok (colon_cons text), bind_ok read]
  rfl

/-- Written members are read one after the other. -/
lemma enters_writeMembers {element : Reader Value} {ms : Members}
    (each : ∀ m ∈ ms, ∀ rest, EndsValue rest →
      element (writeValue m.2 ++ rest) = .ok (m.2.reread, rest)) (found : Members) :
    Enters (valueMember element) found (writeMembers ms)
      ((Value.rereadMembers ms).reverse ++ found) := by
  induction ms generalizing found with
  | nil => exact .none found
  | cons m ms ih =>
    have others :=
      ih (fun m mem => each m (List.mem_cons_of_mem _ mem)) ((m.1, m.2.reread) :: found)
    rw [Value.rereadMembers, List.reverse_cons, List.append_assoc]
    exact .one (fun rest ends => valueMember_cons (each m List.mem_cons_self rest ends)) others

/-- Members keep their order when they are read. -/
lemma ascending_rereadMembers {ms : Members} (h : ms.Ascending) :
    (Value.rereadMembers ms).Ascending := by
  rw [Value.rereadMembers_eq_map]
  exact List.pairwise_map.2 h

/-- A written value begins neither with a blank nor with the end of a list. -/
lemma startsElement_writeValue {v : Value} {depth : Nat} (h : v.Within Number.IsReadable depth) :
    StartsElement (writeValue v) := by
  cases h with
  | null => exact ⟨'n', _, rfl, rfl, by decide⟩
  | @bool _ b => cases b <;> exact ⟨_, _, rfl, rfl, by decide⟩
  | number readable =>
    obtain ⟨c, rest, e, first, _⟩ := readable
    refine ⟨c, rest, e, ?_⟩
    exact ⟨(startsNumber first).1, (startsNumber first).2.1⟩
  | string => exact ⟨'"', _, rfl, rfl, by decide⟩
  | array => exact ⟨'[', _, rfl, rfl, by decide⟩
  | object => exact ⟨'{', _, rfl, rfl, by decide⟩

/-- A written value is read back with its numbers as they are read back. -/
lemma value_writeValue {v : Value} {depth : Nat} (h : v.Within Number.IsReadable depth)
    {rest : List Char} (ends : EndsValue rest) :
    value depth (writeValue v ++ rest) = .ok (v.reread, rest) := by
  -- The induction is on `Within`, where the depth is the one that the reader has left.
  induction h generalizing rest with
  | @null depth => exact value_null depth rest
  | @bool depth b => exact value_bool depth b rest
  | @number depth n readable =>
    obtain ⟨c, text, e, first, read⟩ := readable
    obtain ⟨blank, _, noContainer⟩ := startsNumber first
    rw [writeValue, e, List.cons_append, value_scalar depth blank noContainer, read rest ends]
    rfl
  | @string depth s => exact value_string depth s rest
  | @array depth elems within ih =>
    have starts : ∀ v ∈ elems, StartsElement (writeValue v) :=
      fun v mem => startsElement_writeValue (within v mem)
    have read := @list_writeList _ _ _ writeValue Value.reread elems rest (depth + 1)
      (fun v mem rest ends => ih v mem ends) starts (Nat.succ_pos depth)
    rw [writeValue, writeElements_eq_map, value_list, bind_ok read, Value.reread,
      Value.rereadElements_eq_map]
    rfl
  | @object depth members ascending within ih =>
    have entered := enters_writeMembers (fun m mem rest ends => ih m mem ends) []
    have read := @object_writeObject _ _ _ _ _ rest _ entered (Nat.succ_pos depth)
    have inOrder := (ascending_rereadMembers ascending).ofEntries
    rw [writeValue, value_object, bind_ok read, List.append_nil, List.reverse_reverse, inOrder]
    rfl

/-- A number that is read as another number, whatever comes after it, is reread as that one. -/
lemma reread_eq {n m : Number} (h : ReadsNumber (writeNumber n) m) :
    n.reread = m ∧ n.IsReadable := by
  obtain ⟨c, text, e, first, read⟩ := h
  obtain ⟨blank, _, noContainer⟩ := startsNumber first
  have alone := read [] nofun
  rw [List.append_nil] at alone
  have same : n.reread = m := by
    rw [Number.reread, e, value_scalar 0 blank noContainer, alone]
  refine ⟨same, ?_⟩
  rw [Number.IsReadable, same]
  exact ⟨c, text, e, first, read⟩

end Reader

/-- An integer is read as it is. -/
lemma Number.IsWhole.reread_eq {n : Number} (h : n.IsWhole) : n.reread = n ∧ n.IsReadable := by
  obtain ⟨low, high⟩ := h
  exact Reader.reread_eq (Reader.readsNumber_integer low high)

/-- A value of integers that is nested at most to a depth is one of integers. -/
lemma Value.Within.isWhole {v : Value} {depth : Nat} (h : v.Within Number.IsWhole depth) :
    v.IsWhole := by
  induction h with
  | null => exact .null
  | bool => exact .bool
  | number whole => exact .number whole
  | string => exact .string
  | array _ ih => exact .array ih
  | object _ _ ih => exact .object ih

/-- A value all of whose numbers are integers is read back as it is. -/
lemma Value.IsWhole.reread_eq {v : Value} (h : v.IsWhole) : v.reread = v := by
  induction h with
  | null => rfl
  | bool => rfl
  | number whole => exact congrArg Value.number whole.reread_eq.1
  | string => rfl
  | array _ ih =>
    rw [Value.reread, Value.rereadElements_eq_map]
    exact congrArg Value.array ((List.map_congr_left ih).trans (List.map_id _))
  | @object members _ ih =>
    have same : ∀ m ∈ members, (m.1, m.2.reread) = id m := fun m mem => Prod.ext rfl (ih m mem)
    rw [Value.reread, Value.rereadMembers_eq_map]
    exact congrArg Value.object ((List.map_congr_left same).trans (List.map_id _))

/-- Members all of whose numbers are integers are read back as they are. -/
lemma Value.rereadMembers_eq {ms : Members} (whole : ∀ m ∈ ms, m.2.IsWhole) :
    rereadMembers ms = ms :=
  Value.object.inj (IsWhole.object whole).reread_eq

end ScriptMaps.Json
