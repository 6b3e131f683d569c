import ScriptMaps.Proofs.Json.Strings

/-!
# Reading back objects

The members of a written object are read one by one, each from what was read before it. `Enters` is
the relation of such readings: it holds of a value, the texts of members, and the value they lead
to. A written object is read as whatever its members lead to (`object_writeObject`), and so is a
record that misses no field it requires (`recordObject_writeObject`).
-/

namespace ScriptMaps.Json.Reader

/-- Reading written members one after the other leads from a value to another. -/
inductive Enters {σ : Type} (member : σ → String → Reader σ) : σ → List (List Char) → σ → Prop where
  | none (s : σ) : Enters member s [] s
  | one {s s' s'' : σ} {key : String} {value : List Char} {ts : List (List Char)} :
    (∀ rest, EndsValue rest → member s key (':' :: (value ++ rest)) = .ok (s', rest)) →
      Enters member s' ts s'' → Enters member s (writeMember key value :: ts) s''

section Members

variable {σ : Type} {member : σ → String → Reader σ} {s s' s'' : σ} {ts us : List (List Char)}
variable {fuel : Nat} {rest : List Char}

/-- Members can be read in two parts. -/
lemma Enters.append (first : Enters member s ts s') (second : Enters member s' us s'') :
    Enters member s (ts ++ us) s'' := by
  induction first with
  | none => exact second
  | one step _ ih => exact .one step (ih second)

/-- No written member is empty. -/
lemma Enters.ne_nil (h : Enters member s ts s') : ∀ t ∈ ts, t ≠ [] := by
  induction h with
  | none => nofun
  | one _ _ ih =>
    intro t mem
    obtain rfl | mem := List.mem_cons.1 mem
    · simp [writeMember, writeString]
    · exact ih t mem

/-- A member can follow the brace of an object. -/
lemma hasMember_first (key : String) (text : List Char) :
    hasMember true (writeString key ++ text) = .ok (true, writeString key ++ text) := rfl

/-- A member follows a comma. -/
lemma hasMember_comma (key : String) (text : List Char) :
    hasMember false (',' :: (writeString key ++ text)) = .ok (true, writeString key ++ text) := rfl

/-- The colon after a key is passed. -/
lemma colon_cons (text : List Char) : colon (':' :: text) = .ok ((), text) := rfl

/-- What comes after a member of an object can come after a value. -/
lemma endsValue_object (ts : List (List Char)) (rest : List Char) :
    EndsValue (ts.flatMap (',' :: ·) ++ '\x7d' :: rest) := by
  cases ts with
  | nil =>
    rintro c ⟨⟩
    exact .inr (.inr rfl)
  | cons t ts =>
    rintro c ⟨⟩
    exact .inl rfl

/-- Members after commas are read up to the end of the object. -/
lemma members_rest (h : Enters member s ts s') (enough : ts.length < fuel) :
    members member fuel false s (ts.flatMap (',' :: ·) ++ '\x7d' :: rest) =
      .ok (s', '\x7d' :: rest) := by
  induction h generalizing fuel with
  | none =>
    obtain ⟨fuel, rfl⟩ := Nat.exists_eq_add_one.2 enough
    rfl
  | one step _ ih =>
    obtain ⟨fuel, rfl⟩ := Nat.exists_eq_add_one_of_ne_zero (Nat.ne_of_gt (Nat.zero_lt_of_lt enough))
    have others := @ih fuel (Nat.lt_of_succ_lt_succ enough)
    rw [List.flatMap_cons, List.cons_append, List.cons_append, List.append_assoc, writeMember,
      List.append_assoc, List.cons_append, members, bind_ok (hasMember_comma _ _), if_pos rfl,
      bind_ok (string_writeString _ _), bind_ok (step _ (endsValue_object _ _)), others]

/-- The members of an object are read up to its end. -/
lemma members_separated (h : Enters member s ts s') (enough : ts.length < fuel) :
    members member fuel true s (separated ts ++ '\x7d' :: rest) = .ok (s', '\x7d' :: rest) := by
  obtain ⟨fuel, rfl⟩ := Nat.exists_eq_add_one_of_ne_zero (Nat.ne_of_gt (Nat.zero_lt_of_lt enough))
  cases h with
  | none => rfl
  | one step h =>
    have others := @members_rest _ _ _ _ _ fuel rest h (Nat.lt_of_succ_lt_succ enough)
    rw [separated_cons, List.append_assoc, writeMember, List.append_assoc, List.cons_append,
      members, bind_ok (hasMember_first _ _), if_pos rfl, bind_ok (string_writeString _ _),
      bind_ok (step _ (endsValue_object _ _)), others]

/-- A written object is an opening brace, its members and a closing brace. -/
lemma writeObject_append (ts : List (List Char)) (rest : List Char) :
    writeObject ts ++ rest = '\x7b' :: (separated ts ++ '\x7d' :: rest) := by
  simp [writeObject]

/-- A written object is read as what its members lead to. -/
lemma object_writeObject {depth : Nat} (h : Enters member s ts s') (may : 0 < depth) :
    object depth member s (writeObject ts ++ rest) = .ok (s', rest) := by
  have found := @members_separated _ _ _ _ _ _ rest h
    (Nat.lt_succ_of_lt (length_lt_separated h.ne_nil '\x7d' rest))
  rw [writeObject_append, object, bind_ok (openContainer_cons may _ _), bind_ok (bound_apply _),
    bind_ok found, bind_ok (objectEnd_cons rest)]
  rfl

end Members

/-! ## Records -/

section Record

variable {α : Type} {keys required : List String} {field other : α → String → Reader α}
variable {found : Partial α} {a : α} {key : String} {text rest : List Char}

/-- The value under a known key is read by its field. -/
lemma recordMember_field (known : key ∈ keys) (unseen : key ∉ found.seen)
    (read : field found.value key text = .ok (a, rest)) :
    recordMember keys field other found key (':' :: text) = .ok (⟨a, key :: found.seen⟩, rest) := by
  unfold recordMember
  simp only [List.contains_eq_mem, known, unseen, decide_true, decide_false, Bool.false_eq_true,
    if_true, if_false]
  rw [bind_ok (colon_cons text), bind_ok read]
  rfl

/-- The value under an unknown key is read apart from the fields. -/
lemma recordMember_other (unknown : key ∉ keys)
    (read : other found.value key text = .ok (a, rest)) :
    recordMember keys field other found key (':' :: text) = .ok (⟨a, found.seen⟩, rest) := by
  unfold recordMember
  simp only [List.contains_eq_mem, unknown, decide_false, Bool.false_eq_true, if_false]
  rw [bind_ok (colon_cons text), bind_ok read]
  rfl

/-- What a reader reads under a known key is put into the record. -/
lemma Enters.ofReader {β : Type} {reader : Reader β} {v : β} {seen : List String}
    {ts : List (List Char)} (key : String) (set : β → α)
    (step : field a key = reader >>= fun v => pure (set v)) (known : key ∈ keys)
    (unseen : key ∉ seen) (read : ∀ rest, EndsValue rest → reader (text ++ rest) = .ok (v, rest))
    (others : Enters (recordMember keys field other) ⟨set v, key :: seen⟩ ts found) :
    Enters (recordMember keys field other) ⟨a, seen⟩ (writeMember key text :: ts) found := by
  refine .one (fun rest ends => recordMember_field known unseen ?_) others
  rw [step, bind_ok (read rest ends)]
  rfl

/-- A written record is read as what its members lead to. -/
lemma recordObject_writeObject {depth : Nat} {initial : α} {ts : List (List Char)}
    (h : Enters (recordMember keys field other) ⟨initial, []⟩ ts found)
    (complete : ∀ key ∈ required, key ∈ found.seen) (may : 0 < depth) :
    recordObject depth keys required field other initial (writeObject ts ++ rest) =
      .ok (found.value, rest) := by
  have read := @members_separated _ _ _ _ _ _ rest h
    (Nat.lt_succ_of_lt (length_lt_separated h.ne_nil '\x7d' rest))
  have noneMissing : required.find? (!found.seen.contains ·) = none := by
    simpa using complete
  rw [writeObject_append, recordObject, bind_ok (openContainer_cons may _ _),
    bind_ok (bound_apply _), bind_ok read, noneMissing]
  dsimp only
  rw [bind_ok (objectEnd_cons rest)]
  rfl

/-- Reading written members of a record leads from a value to another, if no keys were seen before
but the given ones, and then none are but the others. -/
def Fills (keys : List String) (field other : α → String → Reader α) (before : List String) (a : α)
    (ts : List (List Char)) (after : List String) (b : α) : Prop :=
  ∀ found : Partial α, found.value = a → found.seen ⊆ before →
    ∃ found' : Partial α, Enters (recordMember keys field other) found ts found' ∧
      found'.value = b ∧ found'.seen ⊆ after

variable {before after last : List String} {b c : α} {ts us : List (List Char)}

/-- Members can be read in two parts. -/
lemma Fills.append (first : Fills keys field other before a ts after b)
    (second : Fills keys field other after b us last c) :
    Fills keys field other before a (ts ++ us) last c := by
  intro found value seen
  obtain ⟨middle, entered, value, seen⟩ := first found value seen
  obtain ⟨found', entered', value, seen⟩ := second middle value seen
  exact ⟨found', entered.append entered', value, seen⟩

/-- What a reader reads under a known key is put into the record. -/
lemma Fills.ofReader {β : Type} {reader : Reader β} {v : β} (key : String) (set : β → α)
    (step : field a key = reader >>= fun v => pure (set v)) (known : key ∈ keys)
    (unseen : key ∉ before)
    (read : ∀ rest, EndsValue rest → reader (text ++ rest) = .ok (v, rest)) :
    Fills keys field other before a [writeMember key text] (key :: before) (set v) := by
  rintro found rfl seen
  refine ⟨⟨set v, key :: found.seen⟩, ?_, rfl, List.cons_subset_cons key seen⟩
  exact .ofReader key set step known (fun mem => unseen (seen mem)) read (.none _)

/-- A field that is left out keeps its value. -/
lemma Fills.skipField (key : String) (a : α) :
    Fills keys field other before a [] (key :: before) a := by
  rintro found rfl seen
  exact ⟨found, .none _, rfl, List.subset_cons_of_subset key seen⟩

/-- The member under an unknown key is read apart from the fields. -/
lemma Fills.ofOther (unknown : key ∉ keys)
    (read : ∀ rest, EndsValue rest → other a key (text ++ rest) = .ok (b, rest))
    (others : Fills keys field other before b ts after c) :
    Fills keys field other before a (writeMember key text :: ts) after c := by
  rintro found rfl seen
  obtain ⟨found', entered, value, seen⟩ := others ⟨b, found.seen⟩ rfl seen
  refine ⟨found', .one (fun rest ends => ?_) entered, value, seen⟩
  exact recordMember_other unknown (read rest ends)

/-- A written record of which no field is required is read as what its members lead to. -/
lemma Fills.recordObject {depth : Nat} (h : Fills keys field other [] a ts after b)
    (may : 0 < depth) (rest : List Char) :
    recordObject depth keys [] field other a (writeObject ts ++ rest) = .ok (b, rest) := by
  obtain ⟨found, entered, rfl, _⟩ := h ⟨a, []⟩ rfl (List.Subset.refl _)
  exact recordObject_writeObject entered nofun may

end Record

end ScriptMaps.Json.Reader
