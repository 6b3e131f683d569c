import ScriptMaps.Proofs.Json.Doubles
import ScriptMaps.Proofs.Json.Values

/-!
# What is found by readers

A reader finds only results of a kind if whatever it succeeds with is of that kind. Every value that
is read is one that can be written and read again: its numbers are in range, its members are in
order, and it is nested no more deeply than was allowed (`finds_value`).
-/

namespace ScriptMaps.Json

open ScriptMaps.Decimal

/-- A number as it is found in texts: an integer of 64 bits or a number of the binary format. -/
inductive Number.IsStored : Number → Prop where
  | integer {n : Int} : -2 ^ 63 ≤ n → n < 2 ^ 64 → IsStored (.integer n)
  | double {x : Binary64} : x.Finite → IsStored (.double x)

/-- A number that was found in a text can be written and read again. -/
lemma Number.IsStored.isReadable {n : Number} (h : n.IsStored) : n.IsReadable := by
  cases h with
  | integer low high => exact (Reader.reread_eq (Reader.readsNumber_integer low high)).2
  | double finite =>
    obtain ⟨y, reads⟩ := Reader.readsNumber_double finite
    exact (Reader.reread_eq reads).2

/-- An integer of 64 bits is found in texts. -/
lemma Number.IsWhole.isStored {n : Number} (h : n.IsWhole) : n.IsStored := by
  obtain ⟨low, high⟩ := h
  exact .integer low high

/-- A value of stored numbers all of which are integers is one of integers. -/
lemma Value.Within.of_isWhole {v : Value} {depth : Nat} (h : v.Within Number.IsStored depth)
    (whole : v.IsWhole) : v.Within Number.IsWhole depth := by
  induction h with
  | null => exact .null
  | bool => exact .bool
  | number =>
    cases whole with
    | number n => exact .number n
  | string => exact .string
  | array _ ih =>
    cases whole with
    | array each => exact .array fun v mem => ih v mem (each v mem)
  | object ascending _ ih =>
    cases whole with
    | object each => exact .object ascending fun m mem => ih m mem (each m mem)

namespace Reader

/-! ## Results of a kind -/

/-- Whatever a reader succeeds with is of a kind. -/
def Finds {α : Type} (reader : Reader α) (kind : α → Prop) : Prop :=
  ∀ text a rest, reader text = .ok (a, rest) → kind a

section Finds

variable {α β : Type} {reader : Reader α} {kind : α → Prop} {kind' : β → Prop}

/-- A result that is given is of a kind if it is. -/
lemma Finds.pure {a : α} (h : kind a) : Finds (pure a) kind := by
  rintro text _ rest ⟨⟩
  exact h

/-- What the second of two readers finds may depend on what the first one did. -/
lemma Finds.bind {next : α → Reader β} (h : Finds reader kind)
    (others : ∀ a, kind a → Finds (next a) kind') : Finds (reader >>= next) kind' := by
  intro text b rest run
  obtain ⟨a, left, first, second⟩ := bind_eq_ok.1 run
  exact others a (h text a left first) left b rest second

/-- A reader finds something. -/
lemma Finds.trivial (reader : Reader α) : Finds reader fun _ => True :=
  fun _ _ _ _ => True.intro

/-- What the second of two readers finds may not depend on the first. -/
lemma Finds.after {next : α → Reader β} (others : ∀ a, Finds (next a) kind') :
    Finds (reader >>= next) kind' :=
  (Finds.trivial reader).bind fun a _ => others a

/-- A reader that stops finds nothing. -/
lemma Finds.fail (cause : Cause) (kind : α → Prop) : Finds (Reader.fail cause) kind := nofun

/-- A reader that stops at the next character finds nothing. -/
lemma Finds.failAhead (cause : Cause) (kind : α → Prop) : Finds (Reader.failAhead cause) kind :=
  nofun

/-- A reader that stops finds nothing, whatever comes after. -/
lemma Finds.fail_bind (cause : Cause) (next : α → Reader β) (kind : β → Prop) :
    Finds (Reader.fail cause >>= next) kind := nofun

/-- A reader that stops at the next character finds nothing, whatever comes after. -/
lemma Finds.failAhead_bind (cause : Cause) (next : α → Reader β) (kind : β → Prop) :
    Finds (Reader.failAhead cause >>= next) kind := nofun

end Finds

/-! ## Numbers -/

/-- A number that is read from its parts is one of the format. -/
lemma finds_fromParts (isNegative : Bool) (significand : Nat) (e : Int) :
    Finds (fromParts isNegative significand e) Number.IsStored := by
  unfold fromParts
  split
  case h_1 => exact Finds.fail _ _
  case h_2 x scaled =>
    have finite := finite_scale (finite_rounded significand) scaled
    exact Finds.pure (.double ⟨finite.mantissa, finite.least, finite.greatest⟩)

/-- A number that is read with an exponent is one of the format. -/
lemma finds_exponent (isNegative : Bool) (significand : Nat) (e : Int) :
    Finds (exponent isNegative significand e) Number.IsStored := by
  have digits (isDown : Bool) :
      Finds (exponentDigits isNegative significand e isDown) Number.IsStored := by
    refine Finds.after fun c => ?_
    split
    case h_1 => exact Finds.fail _ _
    case h_2 c =>
    dsimp only
    split
    case isTrue => exact Finds.after fun _ => Finds.fail_bind _ _ _
    case isFalse =>
    refine Finds.after fun ds => ?_
    split
    case isTrue =>
      split
      case isTrue => exact Finds.fail_bind _ _ _
      case isFalse => exact Finds.pure (.double (Binary64.finite_zero isNegative))
    case isFalse => exact finds_fromParts _ _ _
  exact Finds.after fun _ => Finds.after digits

/-- A number that is read with a fraction is one of the format. -/
lemma finds_fraction (isNegative : Bool) (significand : Nat) (e : Int) :
    Finds (fraction isNegative significand e) Number.IsStored := by
  have rest (significand : Nat) (e : Int) :
      Finds (afterFraction isNegative significand e) Number.IsStored := by
    refine Finds.after fun c => ?_
    split
    all_goals first | exact finds_exponent _ _ _ | exact finds_fromParts _ _ _
  refine Finds.after fun _ => Finds.after fun ds => ?_
  dsimp only
  split
  case isTrue =>
    refine Finds.after fun c => ?_
    split <;> exact Finds.failAhead_bind _ _ _
  case isFalse => exact rest _ _

/-- Digits are only added as long as the number stays in range. -/
lemma gather_le (ds : List Char) {n : Nat} (h : n ≤ greatestInteger) :
    (gather ds n).1 ≤ greatestInteger := by
  induction ds generalizing n with
  | nil => exact h
  | cons c ds ih =>
    rw [gather]
    split
    case isTrue => exact h
    case isFalse small => exact ih (Nat.not_lt.1 small)

/-- A number in range without a fraction is one that is found in texts. -/
lemma isStored_wholeNumber (isNegative : Bool) {n : Nat} (h : n ≤ greatestInteger) :
    (wholeNumber isNegative n).IsStored := by
  unfold greatestInteger at h
  unfold wholeNumber
  split
  case isTrue => exact .integer (by omega) (by omega)
  case isFalse =>
  split
  case isTrue =>
    have finite := finite_rounded n
    exact .double ⟨finite.mantissa, finite.least, finite.greatest⟩
  case isFalse small =>
    simp only [Bool.or_eq_true, decide_eq_true_eq, not_or, Nat.not_lt] at small
    exact .integer (by omega) (by omega)

/-- A number that is read is one that is found in texts. -/
lemma finds_number (isNegative : Bool) : Finds (number isNegative) Number.IsStored := by
  -- After a zero and after other digits the same can follow.
  have rest (ds : List Char) :
      Finds (afterDigits isNegative (gather ds 0).1 (gather ds 0).2) Number.IsStored := by
    refine Finds.after fun c => ?_
    split
    case h_1 => exact finds_fraction _ _ _
    case h_2 => exact finds_exponent _ _ _
    case h_3 => exact finds_exponent _ _ _
    case h_4 =>
      split
      case isTrue =>
        exact Finds.pure (isStored_wholeNumber isNegative (gather_le ds (Nat.zero_le _)))
      case isFalse => exact finds_fromParts _ _ _
  refine Finds.after fun c => ?_
  split
  case h_1 => exact Finds.fail _ _
  case h_2 c =>
  dsimp only
  split
  case isTrue => exact Finds.after fun _ => Finds.fail_bind _ _ _
  case isFalse =>
  split
  case isFalse => exact Finds.after rest
  case isTrue =>
    refine Finds.after fun _ => Finds.after fun d => ?_
    split
    case h_1 =>
      split
      case isTrue => exact Finds.failAhead_bind _ _ _
      case isFalse => exact rest ['0']
    case h_2 => exact rest ['0']

/-! ## Containers -/

section Containers

variable {α σ : Type} {kind : α → Prop} {holds : σ → Prop}

/-- What holds of every element a reader finds holds of every element of the lists it finds. -/
lemma finds_list {element : Reader α} (each : Finds element kind) (depth : Nat) :
    Finds (list depth element) fun found => ∀ a ∈ found, kind a := by
  have all (fuel : Nat) (isFirst : Bool) :
      Finds (elements element fuel isFirst) fun found => ∀ a ∈ found, kind a := by
    induction fuel generalizing isFirst with
    | zero => exact Finds.fail _ _
    | succ fuel ih =>
      refine Finds.after fun more => ?_
      split
      case isTrue =>
        refine each.bind fun a first => (ih false).bind fun found others => Finds.pure ?_
        exact List.forall_mem_cons.2 ⟨first, others⟩
      case isFalse => exact Finds.pure nofun
  refine Finds.after fun _ => Finds.after fun fuel => (all fuel true).bind fun found h => ?_
  exact Finds.after fun _ => Finds.pure h

/-- What every member leaves true of what was read before is true after all members. -/
lemma finds_members {member : σ → String → Reader σ}
    (step : ∀ found key, holds found → Finds (member found key) holds) (fuel : Nat)
    (isFirst : Bool) {found : σ} (h : holds found) :
    Finds (members member fuel isFirst found) holds := by
  induction fuel generalizing isFirst found with
  | zero => exact Finds.fail _ _
  | succ fuel ih =>
    refine Finds.after fun more => ?_
    split
    case isTrue => exact Finds.after fun key => (step found key h).bind fun _ h => ih false h
    case isFalse => exact Finds.pure h

/-- What every member leaves true of what was read before is true of an object. -/
lemma finds_object {member : σ → String → Reader σ}
    (step : ∀ found key, holds found → Finds (member found key) holds) (depth : Nat) {none : σ}
    (h : holds none) : Finds (object depth member none) holds := by
  refine Finds.after fun _ => Finds.after fun fuel => ?_
  refine (finds_members step fuel true h).bind fun found h => ?_
  exact Finds.after fun _ => Finds.pure h

/-- A fault that is reported after the end of a container still stops a reader. -/
lemma Finds.failAfter (closing : Reader Unit) (cause : Cause) (kind : α → Prop) :
    Finds (Reader.failAfter closing cause) kind := by
  intro text a rest run
  unfold Reader.failAfter at run
  split at run <;> cases run

/-- A reader that fails after a closing bracket finds nothing, whatever comes next. -/
lemma Finds.failAfter_bind (closing : Reader Unit) (cause : Cause) (next : α → Reader σ) :
    Finds (Reader.failAfter closing cause >>= next) holds :=
  (Finds.failAfter closing cause fun _ => False).bind fun _ => False.elim

/-- What every known and every unknown member leaves true of what was read before is true of a
record. -/
lemma finds_recordObject {keys required : List String} {field other : σ → String → Reader σ}
    (known : ∀ found key, holds found → Finds (field found key) holds)
    (unknown : ∀ found key, key ∉ keys → holds found → Finds (other found key) holds) (depth : Nat)
    {initial : σ} (h : holds initial) :
    Finds (recordObject depth keys required field other initial) holds := by
  have step (found : Partial σ) (key : String) (h : holds found.value) :
      Finds (recordMember keys field other found key) fun found => holds found.value := by
    unfold recordMember
    dsimp only
    split
    case isTrue =>
      split
      case isTrue => exact Finds.failAfter_bind _ _ _
      case isFalse =>
        exact Finds.after fun _ => (known found.value key h).bind fun _ h => Finds.pure h
    case isFalse other =>
      have other : key ∉ keys := by simpa using other
      exact Finds.after fun _ => (unknown found.value key other h).bind fun _ h => Finds.pure h
  refine Finds.after fun _ => Finds.after fun fuel => ?_
  refine (finds_members step fuel true h).bind fun found h => ?_
  dsimp only
  split
  case h_1 => exact Finds.failAfter_bind _ _ _
  case h_2 => exact Finds.after fun _ => Finds.pure h

end Containers

/-! ## Values -/

/-- A scalar that is read can be written and read again. -/
lemma finds_scalar (c : Char) (depth : Nat) :
    Finds (scalar c) (Value.Within Number.IsStored depth) := by
  unfold scalar
  split
  case h_1 => exact Finds.after fun _ => Finds.after fun _ => Finds.pure .null
  case h_2 => exact Finds.after fun _ => Finds.after fun _ => Finds.pure .bool
  case h_3 => exact Finds.after fun _ => Finds.after fun _ => Finds.pure .bool
  case h_4 =>
    exact Finds.after fun _ => (finds_number true).bind fun n stored => Finds.pure (.number stored)
  case h_5 => exact Finds.after fun _ => Finds.pure .string
  case h_6 =>
    split
    case isTrue => exact (finds_number false).bind fun n stored => Finds.pure (.number stored)
    case isFalse => exact Finds.failAhead _ _

/-- A value that is read can be written and read again. -/
lemma finds_value (depth : Nat) : Finds (value depth) (Value.Within Number.IsStored depth) := by
  induction depth with
  | zero =>
    refine Finds.after fun c => ?_
    split
    case h_4 c _ _ => exact finds_scalar c 0
    all_goals exact Finds.failAhead _ _
  | succ depth ih =>
    refine Finds.after fun c => ?_
    split
    case h_1 => exact Finds.failAhead _ _
    case h_2 => exact (finds_list ih _).bind fun elems each => Finds.pure (.array each)
    case h_3 =>
      -- What holds of the members found so far is kept by each further one.
      have step (found : Members) (key : String)
          (h : ∀ m ∈ found, m.2.Within Number.IsStored depth) :
          Finds (valueMember (value depth) found key) fun found =>
            ∀ m ∈ found, m.2.Within Number.IsStored depth := by
        refine Finds.after fun _ => ih.bind fun v within => Finds.pure ?_
        exact List.forall_mem_cons.2 ⟨within, h⟩
      refine (finds_object step _ (List.forall_mem_nil _)).bind fun entries each => Finds.pure ?_
      obtain ⟨ascending, among⟩ := Members.ofEntries_spec entries.reverse
      exact .object ascending fun m mem => each m (List.mem_reverse.1 (among m mem))
    case h_4 c _ _ => exact finds_scalar c _

/-! ## Plain forms -/

/-- A reader that stops at the wrong value finds nothing. -/
lemma finds_refuse {α : Type} (c : Char) (wanted : String) (kind : α → Prop) :
    Finds (refuse c wanted) kind := by
  unfold refuse
  split
  case isTrue => exact Finds.fail _ _
  case isFalse =>
  split
  case isTrue => exact Finds.fail _ _
  case isFalse => exact Finds.after fun v => Finds.fail _ _

section Records

variable {σ : Type} {holds : σ → Prop} {keys required : List String}
variable {field : σ → String → Reader σ} {initial : σ}

/-- What every field leaves true of what was read before is true after the values of a list. -/
lemma finds_recordValues (step : ∀ found key, holds found → Finds (field found key) holds)
    (wanted : String) (keys : List String) (index : Nat) {found : σ} (h : holds found) :
    Finds (recordValues wanted required field keys index found) holds := by
  induction keys generalizing index found with
  | nil => exact Finds.pure h
  | cons key keys ih =>
    refine Finds.after fun more => ?_
    split
    case isTrue => exact (step found key h).bind fun found h => ih _ h
    case isFalse =>
      split
      case h_1 => exact Finds.failAfter _ _ _
      case h_2 => exact Finds.pure h

/-- What every field leaves true of what was read before is true of a record, in either form. -/
lemma finds_record (step : ∀ found key, holds found → Finds (field found key) holds) (depth : Nat)
    (name : String) (h : holds initial) :
    Finds (record depth name keys required field initial) holds := by
  have skipped (found : σ) (key : String) (_ : key ∉ keys) (h : holds found) :
      Finds (skipOther found key) holds :=
    Finds.after fun _ => Finds.after fun _ => Finds.pure h
  refine Finds.after fun c => ?_
  split
  case isTrue =>
    refine Finds.after fun _ => (finds_recordValues step _ keys 0 h).bind fun found h => ?_
    exact Finds.after fun _ => Finds.pure h
  case isFalse =>
  split
  case isTrue => exact finds_recordObject step skipped depth h
  case isFalse => exact finds_refuse _ _ _

end Records

/-- A value that may be missing is of a kind if it is there. -/
lemma finds_optional {α : Type} {reader : Reader α} {kind : α → Prop} (h : Finds reader kind) :
    Finds (optional reader) fun found => ∀ a ∈ found, kind a := by
  refine Finds.after fun c => ?_
  split
  case isTrue => exact Finds.after fun _ => Finds.after fun _ => Finds.pure nofun
  case isFalse =>
    refine h.bind fun a this => Finds.pure ?_
    rintro b ⟨⟩
    exact this

/-- A number of 32 bits is found where one is wanted. -/
lemma finds_natural32 : Finds natural32 (· < 2 ^ 32) := by
  refine Finds.after fun c => ?_
  split
  case isTrue =>
    refine Finds.after fun v => ?_
    split
    case h_1 n =>
      split
      case isTrue small =>
        simp only [Bool.and_eq_true, decide_eq_true_eq] at small
        exact Finds.pure (by omega)
      case isFalse => exact Finds.fail _ _
    case h_2 => exact Finds.fail _ _
    case h_3 => exact Finds.pure (by decide)
  case isFalse => exact finds_refuse _ _ _

end Reader

/-- What is read from a whole text is of the kind that the reader finds. -/
lemma finds_readText {α : Type} {reader : Reader α} {kind : α → Prop}
    (h : Reader.Finds reader kind) {text : String} {a : α} (read : readText reader text = .ok a) :
    kind a := by
  have whole : Reader.Finds (reader >>= fun a => Reader.finish >>= fun _ => pure a) kind :=
    h.bind fun a h => Reader.Finds.after fun _ => Reader.Finds.pure h
  unfold readText at read
  dsimp only at read
  split at read
  case h_1 found rest run =>
    cases read
    exact whole _ _ _ run
  case h_2 => cases read

end ScriptMaps.Json
