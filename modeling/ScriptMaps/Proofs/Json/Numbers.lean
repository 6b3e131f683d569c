import ScriptMaps.Proofs.Json.Running

/-!
# Reading back integers

The digits of a number are read as the number they were written for. An integer of 64 bits, with or
without sign, is read back as that integer (`readsNumber_integer`).
-/

namespace ScriptMaps.Json.Reader

/-- Digits as they begin a number: there is one, and the first is no zero unless it is the only
one. -/
structure Whole (ds : List Char) : Prop where
  nonempty : ds ≠ []
  digits : ∀ d ∈ ds, d.isDigit
  noZero : ds.head? = some '0' → ds = ['0']

/-- A text that does not go on with a digit. -/
def EndsDigits (rest : List Char) : Prop := ∀ c ∈ rest.head?, c.isDigit = false

section Digits

variable {ds rest : List Char} {isNegative : Bool}

/-- A run of digits is passed. -/
lemma digits_append (run : ∀ d ∈ ds, d.isDigit) (ends : EndsDigits rest) :
    digits (ds ++ rest) = .ok (ds, rest) := by
  have stops : rest.takeWhile Char.isDigit = [] ∧ rest.dropWhile Char.isDigit = rest := by
    cases rest with
    | nil => exact ⟨rfl, rfl⟩
    | cons c rest => simp [ends c rfl]
  rw [digits, bind_ok (get_apply _), bind_ok (modify_apply _ _), pure_apply,
    List.takeWhile_append_of_pos run, List.dropWhile_append_of_pos run, stops.1, stops.2,
    List.append_nil]

/-- A number does not get smaller when digits are added to it. -/
lemma le_ofDigitChars (ds : List Char) (n : Nat) : n ≤ Nat.ofDigitChars 10 ds n := by
  rw [Nat.ofDigitChars_eq_ofDigitChars_zero]
  exact Nat.le_add_right_of_le (Nat.le_mul_of_pos_left n (Nat.pow_pos (by decide)))

/-- Digits are added to a number that stays in range. -/
lemma gather_eq {n : Nat} (small : Nat.ofDigitChars 10 ds n ≤ greatestInteger) :
    gather ds n = (Nat.ofDigitChars 10 ds n, 0) := by
  induction ds generalizing n with
  | nil => simp [gather]
  | cons c ds ih =>
    rw [Nat.ofDigitChars_cons] at small ⊢
    have fits := Nat.not_lt.2 (Nat.le_trans (le_ofDigitChars ds _) small)
    rw [gather, Nat.mul_comm n 10, if_neg fits, ih small]

/-- A number is read from its first digits and what follows them. -/
lemma number_append (whole : Whole ds) (ends : EndsDigits rest)
    (small : Nat.ofDigitChars 10 ds 0 ≤ greatestInteger) :
    number isNegative (ds ++ rest) =
      afterDigits isNegative (Nat.ofDigitChars 10 ds 0) 0 rest := by
  cases ds with
  | nil => exact absurd rfl whole.nonempty
  | cons c ds =>
    have digit : c.isDigit := whole.digits c List.mem_cons_self
    have gathered := gather_eq small
    unfold number
    rw [List.cons_append, bind_ok (peek_apply _)]
    simp only [List.head?_cons, digit, Bool.not_true, Bool.false_eq_true, if_false]
    by_cases zero : c = '0'
    · subst zero
      obtain rfl : ds = [] := (List.cons.inj (whole.noZero rfl)).2
      cases rest with
      | nil => rfl
      | cons d rest =>
        have other : d.isDigit = false := ends d rfl
        simp only [BEq.rfl, if_true]
        rw [List.nil_append, bind_ok (bump_cons _ _), bind_ok (peek_apply _)]
        simp only [List.head?_cons, other, Bool.false_eq_true, if_false]
        rfl
    · have run := digits_append whole.digits ends
      rw [List.cons_append] at run
      simp only [beq_iff_eq, zero, if_false]
      rw [bind_ok run, gathered]

/-- The digits a number is written with can begin a number. -/
lemma whole_toDigits (n : Nat) : Whole (Nat.toDigits 10 n) where
  nonempty := Nat.toDigits_ne_nil
  digits d h := Nat.isDigit_of_mem_toDigits (by decide) (by decide) h
  noZero := by
    induction n using Nat.strongRecOn with
    | _ n ih =>
    intro h
    rw [Nat.toDigits_eq_if (by decide)] at h ⊢
    split at h
    case isTrue small =>
      have all : ∀ n : Fin 10, some (Nat.digitChar n) = some '0' → [Nat.digitChar n] = ['0'] := by
        decide
      rw [if_pos small]
      exact all ⟨n, small⟩ h
    case isFalse large =>
      rw [List.head?_append_of_ne_nil _ Nat.toDigits_ne_nil] at h
      have zero := congrArg (Nat.ofDigitChars 10 · 0) (ih (n / 10) (by omega) h)
      simp only [Nat.ofDigitChars_ten_toDigits] at zero
      have : n / 10 = 0 := zero
      omega

end Digits

/-- What can come after a value cannot go on with a digit. -/
lemma EndsValue.endsDigits {rest : List Char} (h : EndsValue rest) : EndsDigits rest := by
  intro c mem
  obtain rfl | rfl | rfl := h c mem <;> rfl

/-- A number without a fraction ends where a value does. -/
lemma afterDigits_endsValue {rest : List Char} (h : EndsValue rest) (isNegative : Bool)
    (value : Nat) :
    afterDigits isNegative value 0 rest = .ok (wholeNumber isNegative value, rest) := by
  unfold afterDigits
  rw [bind_ok (peek_apply _)]
  cases rest with
  | nil => rfl
  | cons c rest => obtain rfl | rfl | rfl := h c rfl <;> rfl

/-- The digits of a number of 64 bits are read back. -/
lemma number_toDigits {n : Nat} (small : n ≤ greatestInteger) {rest : List Char}
    (ends : EndsValue rest) (isNegative : Bool) :
    number isNegative (Nat.toDigits 10 n ++ rest) = .ok (wholeNumber isNegative n, rest) := by
  have read := Nat.ofDigitChars_ten_toDigits (n := n)
  rw [number_append (whole_toDigits n) ends.endsDigits (by rwa [read]), read,
    afterDigits_endsValue ends]

/-- A scalar that begins with a digit is a number. -/
lemma scalar_digit {c : Char} (h : c.isDigit) :
    scalar c = do return .number (← number false) := by
  unfold scalar
  split
  all_goals exact if_pos h

/-- A scalar that begins with a minus sign is a number. -/
lemma scalar_minus : scalar '-' = do
    bump
    return .number (← number true) := rfl

/-- An integer is written with its sign and its digits. -/
lemma writeNumber_integer (n : Int) :
    writeNumber (.integer n) =
      if 0 ≤ n then Nat.toDigits 10 n.toNat else '-' :: Nat.toDigits 10 (-n).toNat := by
  rw [writeNumber, Int.toString_eq_repr, Int.repr_eq_if]
  split <;> simp

/-- A text is read as a number, whatever comes after it. -/
def ReadsNumber (text : List Char) (n : Number) : Prop :=
  ∃ c rest, text = c :: rest ∧ (c = '-' ∨ c.isDigit) ∧ ∀ left, EndsValue left →
    scalar c (c :: (rest ++ left)) = .ok (.number n, left)

/-- A written integer of 64 bits is read back as that integer. -/
lemma readsNumber_integer {n : Int} (low : -2 ^ 63 ≤ n) (high : n < 2 ^ 64) :
    ReadsNumber (writeNumber (.integer n)) (.integer n) := by
  unfold ReadsNumber
  rw [writeNumber_integer]
  split
  case isTrue positive =>
    have small : n.toNat ≤ greatestInteger := by
      unfold greatestInteger
      omega
    cases e : Nat.toDigits 10 n.toNat with
    | nil => exact absurd e Nat.toDigits_ne_nil
    | cons c text =>
      have digit : c.isDigit := (whole_toDigits n.toNat).digits c (e ▸ List.mem_cons_self)
      refine ⟨c, text, rfl, .inr digit, fun left ends => ?_⟩
      have read := number_toDigits small ends false
      rw [e, List.cons_append] at read
      rw [scalar_digit digit, bind_ok read]
      simp [wholeNumber, positive]
  case isFalse negative =>
    have small : (-n).toNat ≤ greatestInteger := by
      unfold greatestInteger
      omega
    have whole : wholeNumber true (-n).toNat = .integer n := by
      have inRange : ((-n).toNat == 0 || decide ((-n).toNat > 0x8000000000000000)) = false := by
        simp only [Bool.or_eq_false_iff, beq_eq_false_iff_ne, decide_eq_false_iff_not]
        omega
      rw [wholeNumber, inRange]
      simp only [Bool.not_true, Bool.false_eq_true, if_false, Number.integer.injEq]
      omega
    refine ⟨'-', _, rfl, .inl rfl, fun left ends => ?_⟩
    have read := number_toDigits small ends true
    rw [scalar_minus, bind_ok (bump_cons _ _), bind_ok read, whole]
    rfl

end ScriptMaps.Json.Reader
