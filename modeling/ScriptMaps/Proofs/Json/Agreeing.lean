import ScriptMaps.Proofs.Json.Found
import Mathlib.Data.List.DropRight

/-!
# Readers that agree

A text in a form that a reader wants is also a JSON value. One reader agrees with another if
whatever the other reads it reads as well, up to the same place, and the two results are related
(`Agrees`). The readers of forms are agreed with by the reader of values, and so is a reader of
records, if those of its members are.
-/

namespace ScriptMaps.Json.Reader

/-- Where the first reader succeeds, so does the second, with the same rest and a related result. -/
def Agrees {α β : Type} (x : Reader α) (y : Reader β) (related : α → β → Prop) : Prop :=
  ∀ text a rest, x text = .ok (a, rest) → ∃ b, y text = .ok (b, rest) ∧ related a b

namespace Agrees

variable {α β γ δ : Type} {x : Reader α} {y : Reader β} {related : α → β → Prop}
variable {related' : γ → δ → Prop} {f : α → Reader γ} {g : β → Reader δ}

/-- A reader agrees with itself. -/
lemma refl (x : Reader α) : Agrees x x Eq := fun _ a _ run => ⟨a, run, rfl⟩

/-- Readers of related results that read nothing agree. -/
lemma pure {a : α} {b : β} (h : related a b) : Agrees (pure a) (pure b) related := by
  rintro text _ rest ⟨⟩
  exact ⟨b, rfl, h⟩

/-- Readers agree if they do so step by step. -/
lemma bind (h : Agrees x y related) (next : ∀ a b, related a b → Agrees (f a) (g b) related') :
    Agrees (x >>= f) (y >>= g) related' := by
  intro text c rest run
  obtain ⟨a, left, first, second⟩ := bind_eq_ok.1 run
  obtain ⟨b, first', ab⟩ := h text a left first
  obtain ⟨d, second', cd⟩ := next a b ab left c rest second
  exact ⟨d, bind_eq_ok.2 ⟨b, left, first', second'⟩, cd⟩

/-- Both readers begin in the same way. -/
lemma after {f : α → Reader γ} {g : α → Reader δ} (x : Reader α)
    (next : ∀ a, Agrees (f a) (g a) related') : Agrees (x >>= f) (x >>= g) related' :=
  (refl x).bind fun a _ same => same ▸ next a

/-- A reader that fails is agreed with by any. -/
lemma fail (cause : Cause) (y : Reader β) : Agrees (Reader.fail cause) y related := nofun

/-- A reader that fails after a closing bracket is agreed with by any. -/
lemma failAfter_bind (closing : Reader Unit) (cause : Cause) (f : α → Reader γ) (y : Reader δ) :
    Agrees (failAfter closing cause >>= f) y related' := by
  intro text c rest run
  obtain ⟨a, left, first, _⟩ := bind_eq_ok.1 run
  unfold failAfter at first
  split at first <;> cases first

end Agrees

/-! ## Containers -/

section Containers

variable {α β σ τ : Type} {related : α → β → Prop} {holds : σ → τ → Prop}

/-- Readers of lists agree if those of their elements do. -/
lemma agrees_list {element : Reader α} {element' : Reader β}
    (each : Agrees element element' related) (depth : Nat) :
    Agrees (list depth element) (list depth element') (List.Forall₂ related) := by
  have all (fuel : Nat) (isFirst : Bool) :
      Agrees (elements element fuel isFirst) (elements element' fuel isFirst)
        (List.Forall₂ related) := by
    induction fuel generalizing isFirst with
    | zero => exact .fail _ _
    | succ fuel ih =>
      refine .after _ fun more => ?_
      cases more with
      | true =>
        exact each.bind fun a b ab => (ih false).bind fun as bs rest => .pure (.cons ab rest)
      | false => exact .pure .nil
  refine .after _ fun _ => .after _ fun fuel => (all fuel true).bind fun as bs h => ?_
  exact .after _ fun _ => .pure h

/-- Readers of members agree if each step of them does. -/
lemma agrees_members {member : σ → String → Reader σ} {member' : τ → String → Reader τ}
    (step : ∀ found found' key, holds found found' →
      Agrees (member found key) (member' found' key) holds)
    (fuel : Nat) (isFirst : Bool) {found : σ} {found' : τ} (h : holds found found') :
    Agrees (members member fuel isFirst found) (members member' fuel isFirst found') holds := by
  induction fuel generalizing isFirst found found' with
  | zero => exact .fail _ _
  | succ fuel ih =>
    refine .after _ fun more => ?_
    cases more with
    | true =>
      refine .after _ fun key => ?_
      exact (step found found' key h).bind fun _ _ h => ih false h
    | false => exact .pure h

/-- A reader of records is agreed with by a reader of objects, if those of their members agree. -/
lemma agrees_recordObject {keys : List String} {field other : σ → String → Reader σ}
    {member : τ → String → Reader τ} {holds : Partial σ → τ → Prop}
    (step : ∀ found found' key, holds found found' →
      Agrees (recordMember keys field other found key) (member found' key) holds)
    (depth : Nat) {initial : σ} {none : τ} (h : holds ⟨initial, []⟩ none) :
    Agrees (recordObject depth keys [] field other initial) (object depth member none)
      fun a found => ∃ seen, holds ⟨a, seen⟩ found := by
  refine .after _ fun _ => .after _ fun fuel => ?_
  refine (agrees_members step fuel true h).bind fun found found' h => ?_
  exact .after _ fun _ => .pure ⟨found.seen, h⟩

end Containers

/-! ## Forms -/

/-- What a reader of a form reads is read as a value that is given by what it read. -/
def ReadsAs {α : Type} (reader : Reader α) (depth : Nat) (form : α → Value) : Prop :=
  Agrees reader (value depth) fun a v => v = form a

section Forms

variable {α : Type} {reader : Reader α} {form : α → Value} {related : α → Value → Prop}

/-- Peeking passes the blanks and leaves what it sees. -/
lemma peekPart_apply (text : List Char) :
    peekPart text = .ok ((text.dropWhile isBlank).head?, text.dropWhile isBlank) := rfl

/-- Blanks before a value do not count. -/
lemma value_dropWhile (depth : Nat) (text : List Char) :
    value depth (text.dropWhile isBlank) = value depth text := by
  have same : peekPart (text.dropWhile isBlank) = peekPart text := by
    rw [peekPart_apply, peekPart_apply, List.dropWhile_idempotent]
  cases depth with
  | zero =>
    unfold value
    rw [bind_apply, bind_apply, same]
  | succ depth =>
    unfold value
    rw [bind_apply, bind_apply, same]

/-- A reader that looks at the first character of a value is agreed with if it is from there on. -/
lemma agrees_valueStart {next : Char → Reader α} {depth : Nat}
    (h : ∀ c tail a rest, next c (c :: tail) = .ok (a, rest) → isBlank c = false →
      ∃ v, value depth (c :: tail) = .ok (v, rest) ∧ related a v) :
    Agrees (valueStart >>= next) (value depth) related := by
  intro text a rest run
  obtain ⟨c, left, start, run⟩ := bind_eq_ok.1 run
  unfold valueStart at start
  rw [bind_ok (peekPart_apply text)] at start
  rw [← value_dropWhile]
  have visible := List.head?_dropWhile_not isBlank text
  cases part : text.dropWhile isBlank with
  | nil =>
    rw [part] at start
    cases start
  | cons d tail =>
    rw [part] at start visible
    cases start
    exact h c tail a rest run visible

/-- A reader that finds nothing is agreed with by any. -/
lemma refuse_ne_ok (c : Char) (wanted : String) {text rest : List Char} {a : α} :
    refuse c wanted text ≠ .ok (a, rest) := by
  intro run
  exact finds_refuse c wanted (fun _ => False) text a rest run

/-- A text is read as a string. -/
lemma readsAs_text (depth : Nat) : ReadsAs text depth .string := by
  apply agrees_valueStart
  intro c tail s rest run visible
  split at run
  case isTrue quote =>
    obtain rfl : c = '"' := beq_iff_eq.1 quote
    refine ⟨.string s, ?_, rfl⟩
    rw [value_scalar depth visible (by decide)]
    exact bind_eq_ok.2 ⟨s, rest, run, rfl⟩
  case isFalse => exact (refuse_ne_ok _ _ run).elim

/-- What begins as a number is a number. -/
lemma finds_scalar_number {c : Char} (begins : c = '-' ∨ c.isDigit = true) :
    Finds (scalar c) fun v => ∃ n, v = .number n := by
  unfold scalar
  split
  case h_4 => exact .after fun _ => .after fun n => .pure ⟨n, rfl⟩
  case h_6 =>
    split
    case isTrue => exact .after fun n => .pure ⟨n, rfl⟩
    case isFalse => exact .failAhead _ _
  all_goals rcases begins with begins | begins <;> cases begins

/-- A natural number of 32 bits is read as an integer. -/
lemma readsAs_natural32 (depth : Nat) :
    ReadsAs natural32 depth fun n => .number (.integer n) := by
  apply agrees_valueStart
  intro c tail n rest run visible
  split at run
  case isTrue begins =>
    have begins : c = '-' ∨ c.isDigit = true := by simpa using begins
    obtain ⟨v, left, found, run⟩ := bind_eq_ok.1 run
    obtain ⟨m, rfl⟩ := finds_scalar_number begins _ _ _ found
    have read : value depth (c :: tail) = .ok (.number m, left) := by
      rw [value_scalar depth visible (startsNumber begins).2.2]
      exact found
    cases m with
    | double x => cases run
    | integer m =>
      dsimp only at run
      split at run
      case isTrue small =>
        cases run
        obtain ⟨least, _⟩ := Bool.and_eq_true_iff.1 small
        have exact_ := Int.toNat_of_nonneg (of_decide_eq_true least)
        exact ⟨_, read, congrArg (fun n => Value.number (.integer n)) exact_.symm⟩
      case isFalse => cases run
  case isFalse => exact (refuse_ne_ok _ _ run).elim

/-- What may be null is read as null or as what is there. -/
lemma ReadsAs.optional {depth : Nat} (h : ReadsAs reader depth form) :
    ReadsAs (Reader.optional reader) depth fun a => (a.map form).getD .null := by
  intro text a rest run
  unfold Reader.optional at run
  rw [bind_ok (peekPart_apply text)] at run
  rw [← value_dropWhile]
  have visible := List.head?_dropWhile_not isBlank text
  -- Only a null begins with this letter, and both readers pass it as one word.
  split at run
  case isTrue null =>
    cases part : text.dropWhile isBlank with
    | nil =>
      rw [part] at null
      cases null
    | cons c tail =>
      rw [part] at null run visible
      obtain rfl : c = 'n' := by simpa using null
      obtain ⟨_, left, bumped, run⟩ := bind_eq_ok.1 run
      obtain ⟨_, left', passed, run⟩ := bind_eq_ok.1 run
      cases run
      refine ⟨.null, ?_, rfl⟩
      rw [value_scalar depth visible (by decide)]
      exact bind_eq_ok.2 ⟨_, left, bumped, bind_eq_ok.2 ⟨_, rest, passed, rfl⟩⟩
  case isFalse =>
    obtain ⟨b, left, found, run⟩ := bind_eq_ok.1 run
    cases run
    exact h _ b rest found

/-- Values that are the forms of what was read, one by one, are the list of these forms. -/
lemma eq_map_of_forall₂ {as : List α} {vs : List Value}
    (each : List.Forall₂ (fun a v => v = form a) as vs) : vs = as.map form := by
  induction each with
  | nil => rfl
  | cons same _ ih => rw [List.map_cons, same, ih]

/-- A list of forms is read as an array. -/
lemma ReadsAs.listOf {depth : Nat} (h : ReadsAs reader depth form) :
    ReadsAs (Reader.listOf (depth + 1) reader) (depth + 1) fun as => .array (as.map form) := by
  apply agrees_valueStart
  intro c tail as rest run visible
  split at run
  case isTrue bracket =>
    obtain rfl : c = '[' := beq_iff_eq.1 bracket
    obtain ⟨vs, found, each⟩ := agrees_list h (depth + 1) _ _ _ run
    refine ⟨.array vs, ?_, congrArg Value.array (eq_map_of_forall₂ each)⟩
    unfold value
    rw [bind_ok (peekPart_cons visible)]
    exact bind_eq_ok.2 ⟨vs, rest, found, rfl⟩
  case isFalse => exact (refuse_ne_ok _ _ run).elim

end Forms

end ScriptMaps.Json.Reader

namespace ScriptMaps.Json

/-- What agrees with a reader of a whole text reads the text as well. -/
lemma agrees_readText {α β : Type} {x : Reader α} {y : Reader β} {related : α → β → Prop}
    (h : Reader.Agrees x y related) {text : String} {a : α} (read : readText x text = .ok a) :
    ∃ b, readText y text = .ok b ∧ related a b := by
  have whole : Reader.Agrees (x >>= fun a => Reader.finish >>= fun _ => pure a)
      (y >>= fun b => Reader.finish >>= fun _ => pure b) related :=
    h.bind fun a b ab => .after _ fun _ => .pure ab
  unfold readText at read
  dsimp only at read
  split at read
  case h_1 a' rest run =>
    cases read
    obtain ⟨b, run', ab⟩ := whole _ _ _ run
    refine ⟨b, ?_, ab⟩
    unfold readText
    dsimp only
    rw [run']
  case h_2 => cases read

end ScriptMaps.Json
