import ScriptMaps.Json.Decode
import ScriptMaps.Proofs.Except

/-!
# Running readers

What the steps of a reader do to the text in front of it. A reader succeeds on a text if it gives a
result and what is left; larger readers are run by rewriting with the laws of their parts.
-/

namespace ScriptMaps.Json.Reader

section Steps

variable {α β : Type} {text rest : List Char} {c : Char}

/-- A reader followed by another is run on a text one after the other. -/
@[simp]
lemma bind_apply (x : Reader α) (f : α → Reader β) (text : List Char) :
    (x >>= f) text = x text >>= fun p => f p.1 p.2 := rfl

/-- The second of two readers goes on where the first stopped. -/
lemma bind_ok {x : Reader α} {f : α → Reader β} {a : α} (h : x text = .ok (a, rest)) :
    (x >>= f) text = f a rest := by
  rw [bind_apply, h]
  rfl

/-- A reader that only gives a result leaves the text as it is. -/
@[simp]
lemma pure_apply (a : α) (text : List Char) : (pure a : Reader α) text = .ok (a, text) := rfl

/-- The text in front of a reader can be had without reading it. -/
@[simp]
lemma get_apply (text : List Char) : (get : Reader (List Char)) text = .ok (text, text) := rfl

/-- The text in front of a reader may be changed. -/
@[simp]
lemma modify_apply (f : List Char → List Char) (text : List Char) :
    (modify f : Reader Unit) text = .ok ((), f text) := rfl

/-- Peeking shows the next character and leaves it. -/
@[simp]
lemma peek_apply (text : List Char) : peek text = .ok (text.head?, text) := rfl

/-- One character is passed. -/
@[simp]
lemma bump_cons (c : Char) (text : List Char) : bump (c :: text) = .ok ((), text) := rfl

/-- The next character is read. -/
@[simp]
lemma next_cons (c : Char) (text : List Char) : next (c :: text) = .ok (some c, text) := rfl

/-- No blanks are passed where there are none. -/
lemma peekPart_cons (h : isBlank c = false) :
    peekPart (c :: text) = .ok (some c, c :: text) := by
  simp [peekPart, h]

/-- The parts of a text are not blank. -/
lemma valueStart_cons (h : isBlank c = false) : valueStart (c :: text) = .ok (c, c :: text) := by
  unfold valueStart
  rw [bind_ok (peekPart_cons h)]
  rfl

/-- A word is passed where it stands. -/
lemma word_append (w rest : List Char) : word w (w ++ rest) = .ok ((), rest) := by
  induction w with
  | nil => rfl
  | cons c w ih =>
    rw [List.cons_append, word, bind_ok (next_cons c _)]
    simp [ih]

/-- A word is passed with its first letter, and gives what it stands for. -/
lemma bump_word (c : Char) (w : List Char) (a : α) (rest : List Char) :
    (bump >>= fun _ => word w >>= fun _ => pure a) (c :: (w ++ rest)) = .ok (a, rest) := by
  rw [bind_ok (bump_cons _ _), bind_ok (word_append _ _)]
  rfl

/-- Two readers succeed if the first does and the second does on what is left. -/
lemma bind_eq_ok {x : Reader α} {f : α → Reader β} {b : β} :
    (x >>= f) text = .ok (b, rest) ↔
      ∃ a left, x text = .ok (a, left) ∧ f a left = .ok (b, rest) := by
  rw [bind_apply, Except.bind_eq_ok]
  exact ⟨fun ⟨⟨a, left⟩, h⟩ => ⟨a, left, h⟩, fun ⟨a, left, h⟩ => ⟨(a, left), h⟩⟩

end Steps

/-! ## Containers -/

/-- A container is opened if one more may be. -/
lemma openContainer_cons {depth : Nat} (h : 0 < depth) (c : Char) (text : List Char) :
    openContainer depth (c :: text) = .ok ((), text) := by
  obtain ⟨depth, rfl⟩ := Nat.exists_eq_add_one.2 h
  rfl

/-- Nothing is repeated more often than there are characters. -/
lemma bound_apply (text : List Char) : bound text = .ok (text.length + 1, text) := rfl

/-- The end of a list is passed. -/
lemma listEnd_cons (rest : List Char) : listEnd (']' :: rest) = .ok ((), rest) := rfl

/-- The end of an object is passed. -/
lemma objectEnd_cons (rest : List Char) : objectEnd ('\x7d' :: rest) = .ok ((), rest) := rfl

/-- A text that can come after a value: it does not go on with what a number could go on with. -/
def EndsValue (rest : List Char) : Prop := ∀ c ∈ rest.head?, c = ',' ∨ c = ']' ∨ c = '\x7d'

/-- A text that can be an element of a list: it begins with what is neither blank nor the end of
the list. -/
def StartsElement (text : List Char) : Prop :=
  ∃ c rest, text = c :: rest ∧ isBlank c = false ∧ c ≠ ']'

section Lists

variable {α β : Type} {element : Reader α} {write : β → List Char} {result : β → α}
variable {bs : List β} {fuel : Nat} {text rest : List Char}

/-- Texts with commas between them, one of them and then the others. -/
lemma separated_cons (t : List Char) (ts : List (List Char)) :
    separated (t :: ts) = t ++ ts.flatMap (',' :: ·) := by
  induction ts generalizing t with
  | nil => simp [separated]
  | cons u ts ih => rw [separated, ih, List.flatMap_cons, List.cons_append]; simp

/-- An element can follow the bracket of a list. -/
lemma hasElement_first (h : StartsElement text) (rest : List Char) :
    hasElement true (text ++ rest) = .ok (true, text ++ rest) := by
  obtain ⟨c, text, rfl, blank, notEnd⟩ := h
  unfold hasElement
  rw [List.cons_append, bind_ok (peekPart_cons blank)]
  by_cases comma : c = ','
  · subst comma
    rfl
  · simp

/-- An element follows a comma. -/
lemma hasElement_comma (h : StartsElement text) (rest : List Char) :
    hasElement false (',' :: (text ++ rest)) = .ok (true, text ++ rest) := by
  obtain ⟨c, text, rfl, blank, notEnd⟩ := h
  unfold hasElement
  rw [List.cons_append, bind_ok (peekPart_cons rfl)]
  simp only [Bool.false_eq_true, if_false]
  rw [bind_ok (bump_cons _ _), bind_ok (peekPart_cons blank)]
  simp

/-- What comes after an element of a list can come after a value. -/
lemma endsValue_list (ts : List (List Char)) (rest : List Char) :
    EndsValue (ts.flatMap (',' :: ·) ++ ']' :: rest) := by
  cases ts with
  | nil =>
    rintro c ⟨⟩
    exact .inr (.inl rfl)
  | cons t ts =>
    rintro c ⟨⟩
    exact .inl rfl

/-- Elements after commas are read up to the end of the list. -/
lemma elements_rest (each : ∀ b ∈ bs, ∀ rest, EndsValue rest →
      element (write b ++ rest) = .ok (result b, rest))
    (starts : ∀ b ∈ bs, StartsElement (write b)) (enough : bs.length < fuel) :
    elements element fuel false ((bs.map write).flatMap (',' :: ·) ++ ']' :: rest) =
      .ok (bs.map result, ']' :: rest) := by
  induction bs generalizing fuel with
  | nil =>
    obtain ⟨fuel, rfl⟩ := Nat.exists_eq_add_one.2 enough
    rfl
  | cons b bs ih =>
    obtain ⟨fuel, rfl⟩ := Nat.exists_eq_add_one_of_ne_zero (Nat.ne_of_gt (Nat.zero_lt_of_lt enough))
    have others := @ih fuel (fun b mem => each b (List.mem_cons_of_mem _ mem))
      (fun b mem => starts b (List.mem_cons_of_mem _ mem)) (Nat.lt_of_succ_lt_succ enough)
    rw [List.map_cons, List.flatMap_cons, List.cons_append, List.cons_append, List.append_assoc,
      elements, bind_ok (hasElement_comma (starts b List.mem_cons_self) _), if_pos rfl,
      bind_ok (each b List.mem_cons_self _ (endsValue_list _ _)), bind_ok others]
    rfl

/-- The elements of a list are read up to its end. -/
lemma elements_separated (each : ∀ b ∈ bs, ∀ rest, EndsValue rest →
      element (write b ++ rest) = .ok (result b, rest))
    (starts : ∀ b ∈ bs, StartsElement (write b)) (enough : bs.length < fuel) :
    elements element fuel true (separated (bs.map write) ++ ']' :: rest) =
      .ok (bs.map result, ']' :: rest) := by
  obtain ⟨fuel, rfl⟩ := Nat.exists_eq_add_one_of_ne_zero (Nat.ne_of_gt (Nat.zero_lt_of_lt enough))
  cases bs with
  | nil => rfl
  | cons b bs =>
    have others := @elements_rest _ _ element write result bs fuel rest
      (fun b mem => each b (List.mem_cons_of_mem _ mem))
      (fun b mem => starts b (List.mem_cons_of_mem _ mem)) (Nat.lt_of_succ_lt_succ enough)
    rw [List.map_cons, separated_cons, List.append_assoc, elements,
      bind_ok (hasElement_first (starts b List.mem_cons_self) _), if_pos rfl,
      bind_ok (each b List.mem_cons_self _ (endsValue_list _ _)), bind_ok others]
    rfl

/-- There are more characters than texts that none of is empty. -/
lemma length_lt_separated {ts : List (List Char)} (nonempty : ∀ t ∈ ts, t ≠ []) (c : Char)
    (rest : List Char) : ts.length < (separated ts ++ c :: rest).length := by
  have each : ∀ (t : List Char) (ts : List (List Char)),
      ts.length + t.length ≤ (separated (t :: ts)).length := by
    intro t ts
    rw [separated_cons]
    induction ts with
    | nil => simp
    | cons u ts ih =>
      simp only [List.length_cons, List.flatMap_cons, List.length_append] at ih ⊢
      omega
  cases ts with
  | nil => simp
  | cons t ts =>
    have := each t ts
    have positive := List.length_pos_iff.2 (nonempty t List.mem_cons_self)
    simp only [List.length_append, List.length_cons] at this ⊢
    omega

/-- A written list is read as the list of what its elements are read as. -/
lemma list_writeList {depth : Nat} (each : ∀ b ∈ bs, ∀ rest, EndsValue rest →
      element (write b ++ rest) = .ok (result b, rest))
    (starts : ∀ b ∈ bs, StartsElement (write b)) (may : 0 < depth) :
    list depth element (writeList (bs.map write) ++ rest) = .ok (bs.map result, rest) := by
  have text : writeList (bs.map write) ++ rest =
      '[' :: (separated (bs.map write) ++ ']' :: rest) := by
    simp [writeList]
  have nonempty : ∀ t ∈ bs.map write, t ≠ [] := by
    intro t mem
    obtain ⟨b, own, rfl⟩ := List.mem_map.1 mem
    obtain ⟨c, t, e, _⟩ := starts b own
    simp [e]
  have enough := length_lt_separated nonempty ']' rest
  rw [List.length_map] at enough
  have found := @elements_separated _ _ element write result bs _ rest each starts
    (Nat.lt_succ_of_lt enough)
  rw [text, list, bind_ok (openContainer_cons may _ _), bind_ok (bound_apply _), bind_ok found,
    bind_ok (listEnd_cons rest)]
  rfl

end Lists

end ScriptMaps.Json.Reader

namespace ScriptMaps.Json

/-- A written text is read if a reader takes just what is written. -/
lemma readText_ofList {α : Type} {reader : Reader α} {a : α} {text : List Char}
    (read : ∀ rest, reader (text ++ rest) = .ok (a, rest)) :
    readText reader (String.ofList text) = .ok a := by
  have whole := read []
  rw [List.append_nil] at whole
  unfold readText
  dsimp only
  rw [String.toList_ofList, Reader.bind_ok whole]
  rfl

end ScriptMaps.Json
