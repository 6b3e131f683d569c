import ScriptMaps.Proofs.Json.Values

/-!
# Reading back forms

What is written in the form a reader wants is read back by that reader: strings, small integers,
values that may be missing, and lists of these.
-/

namespace ScriptMaps.Json

namespace Reader

variable {α β : Type} {rest : List Char}

/-- A written string is read back as a string. -/
lemma text_writeString (s : String) (rest : List Char) :
    text (writeString s ++ rest) = .ok (s, rest) := by
  change (valueStart >>= fun c => if c == '"' then string true else refuse c "a string")
    ('"' :: _) = _
  rw [bind_ok (valueStart_cons rfl)]
  exact string_writeString s rest

/-- A written truth value is read back. -/
lemma flag_writeBool (b : Bool) (rest : List Char) :
    flag (writeBool b ++ rest) = .ok (b, rest) := by
  cases b with
  | true => exact bump_word 't' "rue".toList true rest
  | false => exact bump_word 'f' "alse".toList false rest

/-- A written integer of 32 bits without sign is read back. -/
lemma natural32_toString {n : Nat} (small : n < 2 ^ 32) (ends : EndsValue rest) :
    natural32 ((toString n).toList ++ rest) = .ok (n, rest) := by
  obtain ⟨c, text, e, first, read⟩ := @readsNumber_integer n (by omega) (by omega)
  have written : (toString n).toList = c :: text := by
    rw [← e, writeNumber_integer, if_pos (Int.natCast_nonneg n), Int.toNat_natCast]
    simp
  have begins : (c == '-' || c.isDigit) = true := by simpa using first
  have inRange : (decide (0 ≤ (n : Int)) && decide ((n : Int) ≤ 0xffffffff)) = true := by
    simp only [Bool.and_eq_true, decide_eq_true_eq]
    omega
  rw [written, List.cons_append, natural32, bind_ok (valueStart_cons (startsNumber first).1),
    if_pos begins, bind_ok (read rest ends)]
  simp only [inRange, if_true, Int.toNat_natCast]
  rfl

/-- A list of written values is read back by a reader that reads each of them back. -/
lemma listOf_writeList {depth : Nat} {element : Reader α} {write : β → List Char} {result : β → α}
    {bs : List β} (each : ∀ b ∈ bs, ∀ rest, EndsValue rest →
      element (write b ++ rest) = .ok (result b, rest))
    (starts : ∀ b ∈ bs, StartsElement (write b)) (may : 0 < depth) :
    listOf depth element (writeList (bs.map write) ++ rest) = .ok (bs.map result, rest) := by
  change (valueStart >>= fun c => if c == '[' then list depth element else refuse c "a sequence")
    ('[' :: _) = _
  rw [bind_ok (valueStart_cons rfl)]
  exact list_writeList each starts may

/-- A value that is there is read by its reader. -/
lemma optional_some {reader : Reader α} {a : α} {c : Char} {text : List Char}
    (blank : isBlank c = false) (notNull : c ≠ 'n') (read : reader (c :: text) = .ok (a, rest)) :
    optional reader (c :: text) = .ok (some a, rest) := by
  have different : (some c == some 'n') = false := by simpa using notNull
  rw [optional, bind_ok (peekPart_cons blank), different]
  simp only [Bool.false_eq_true, if_false]
  rw [bind_ok read]
  rfl

/-- A null is read as no value. -/
lemma optional_null (reader : Reader α) (rest : List Char) :
    optional reader ("null".toList ++ rest) = .ok (none, rest) := by
  change optional reader ('n' :: ("ull".toList ++ rest)) = _
  rw [optional, bind_ok (peekPart_cons rfl)]
  exact bump_word 'n' "ull".toList none rest

/-- A written string that might have been missing is read back. -/
lemma optional_writeString (s : String) (rest : List Char) :
    optional text (writeString s ++ rest) = .ok (some s, rest) :=
  optional_some rfl (by decide) (text_writeString s rest)

/-- An optional string is read back. -/
lemma optional_writeOptionalString (s : Option String) (rest : List Char) :
    optional text (writeOptionalString s ++ rest) = .ok (s, rest) := by
  cases s with
  | none => exact optional_null text rest
  | some s => exact optional_writeString s rest

/-- A written string can be an element of a list. -/
lemma startsElement_writeString (s : String) : StartsElement (writeString s) :=
  ⟨'"', _, rfl, rfl, by decide⟩

/-- An optional string can be an element of a list. -/
lemma startsElement_writeOptionalString (s : Option String) :
    StartsElement (writeOptionalString s) := by
  cases s with
  | none => exact ⟨'n', _, rfl, rfl, by decide⟩
  | some s => exact startsElement_writeString s

/-- A list of strings is read back. -/
lemma listOf_strings {depth : Nat} (strings : List String) (may : 0 < depth) (rest : List Char) :
    listOf depth text (writeList (strings.map writeString) ++ rest) = .ok (strings, rest) := by
  have read := @listOf_writeList _ _ rest depth text writeString id strings
    (fun s _ rest _ => text_writeString s rest) (fun s _ => startsElement_writeString s) may
  rwa [List.map_id] at read

/-- A list of optional strings that might have been missing is read back. -/
lemma optional_listOf_strings {depth : Nat} (strings : List (Option String)) (may : 0 < depth)
    (rest : List Char) :
    optional (listOf depth (optional text)) (writeList (strings.map writeOptionalString) ++ rest) =
      .ok (some strings, rest) := by
  have read := @listOf_writeList _ _ rest depth (optional text) writeOptionalString id strings
    (fun s _ rest _ => optional_writeOptionalString s rest)
    (fun s _ => startsElement_writeOptionalString s) may
  rw [List.map_id] at read
  exact optional_some rfl (by decide) read

/-- A record that is written as an object is read as one. -/
lemma record_writeObject {depth : Nat} {name : String} {keys required : List String}
    {field : α → String → Reader α} {initial : α} (ts : List (List Char)) (rest : List Char) :
    record depth name keys required field initial (writeObject ts ++ rest) =
      recordObject depth keys required field skipOther initial (writeObject ts ++ rest) := by
  rw [writeObject_append, record, bind_ok (valueStart_cons rfl)]
  rfl

end Reader

end ScriptMaps.Json
