import ScriptMaps.Proofs.Json.Numbers
import ScriptMaps.Proofs.Json.Scaling

/-!
# Reading back floating point numbers

A floating point number is written as its shortest decimal, with a point or an exponent, and what is
written is read as a floating point number again (`readsNumber_double`). The number that is read may
be another one: a decimal is read by rounding its digits and its power of ten one after the other.
-/

namespace ScriptMaps.Json.Reader

open ScriptMaps.Decimal ScriptMaps.Decimal.Binary64

/-- A reader gets a floating point number from a text, whatever comes after it. -/
def ReadsDouble (reader : Reader Number) (text : List Char) : Prop :=
  ∃ x, ∀ rest, EndsValue rest → reader (text ++ rest) = .ok (.double x, rest)

section Doubles

variable {d : Decimal} {isNegative : Bool} {significand : Nat} {e : Int} {text ds whole : List Char}

/-- A text is read by a reader that passes a part of it and goes on as another one. -/
lemma ReadsDouble.append {reader next : Reader Number} {head : List Char}
    (h : ReadsDouble next text)
    (passes : ∀ rest, EndsValue rest → reader (head ++ (text ++ rest)) = next (text ++ rest)) :
    ReadsDouble reader (head ++ text) := by
  obtain ⟨x, reads⟩ := h
  refine ⟨x, fun rest ends => ?_⟩
  rw [List.append_assoc, passes rest ends, reads rest ends]

/-! ## Numbers from their parts -/

/-- A number is read from parts that can be scaled. -/
lemma readsDouble_fromParts (h : (scale 20 (rounded significand) (max e (-5000))).isSome) :
    ReadsDouble (fromParts isNegative significand e) [] := by
  obtain ⟨x, scaled⟩ := Option.isSome_iff_exists.1 h
  refine ⟨{ x with isNegative := isNegative }, fun rest _ => ?_⟩
  unfold fromParts
  rw [scaled]
  rfl

/-- A number is read from a fraction. -/
lemma readsDouble_of_neg (h : e < 0) : ReadsDouble (fromParts isNegative significand e) [] :=
  readsDouble_fromParts (isSome_scale_of_neg (finite_rounded _) 20 (by omega))

/-- A number is read from a decimal that was written for a number. -/
lemma Written.readsDouble (h : Written d) (nonzero : d.digits ≠ 0) (isNegative : Bool) :
    ReadsDouble (fromParts isNegative d.digits d.exponent) [] :=
  readsDouble_fromParts (h.isSome_scale nonzero)

/-! ## Exponents -/

/-- An exponent as it is written. -/
def writeExponent (k : Int) : List Char :=
  'e' :: (if k < 0 then '-' else '+') :: Nat.toDigits 10 k.natAbs

/-- The number that a run of digits stands for. -/
lemma decimal_toDigits (n : Nat) : decimal (Nat.toDigits 10 n) = n := by
  have same : decimal (Nat.toDigits 10 n) = Nat.ofDigitChars 10 (Nat.toDigits 10 n) 0 := by
    simp only [decimal, Nat.ofDigitChars, Nat.mul_comm 10]
  rw [same, Nat.ofDigitChars_ten_toDigits]

/-- The digits of an exponent are read, and with them the number. -/
lemma exponentDigits_toDigits {n : Nat} (isDown : Bool) (small : isDown = false → n ≤ 0x7fffffff)
    {x : Binary64} {rest : List Char} (ends : EndsValue rest)
    (reads : fromParts isNegative significand (if isDown then e - n else e + n) rest =
      .ok (.double x, rest)) :
    exponentDigits isNegative significand e isDown (Nat.toDigits 10 n ++ rest) =
      .ok (.double (if n > 0x7fffffff then Binary64.zero isNegative else x), rest) := by
  have whole := whole_toDigits n
  have run := digits_append whole.digits ends.endsDigits
  have value := decimal_toDigits n
  generalize Nat.toDigits 10 n = ds at *
  cases ds with
  | nil => exact absurd rfl whole.nonempty
  | cons c ds =>
    have digit : c.isDigit := whole.digits c List.mem_cons_self
    rw [List.cons_append] at run ⊢
    unfold exponentDigits
    rw [bind_ok (peek_apply _)]
    simp only [List.head?_cons, digit, Bool.not_true, Bool.false_eq_true, if_false]
    rw [bind_ok run]
    simp only [value]
    split
    case isTrue large =>
      cases isDown with
      | false => exact absurd (small rfl) (Nat.not_le.2 large)
      | true => simp
    case isFalse => exact reads

/-- An exponent is read, and with it the number. -/
lemma readsDouble_exponent {k : Int} (small : k ≤ 0x7fffffff)
    (h : ReadsDouble (fromParts isNegative significand (e + k)) []) :
    ReadsDouble (exponent isNegative significand e) (writeExponent k) := by
  obtain ⟨x, reads⟩ := h
  -- Only a negative exponent can be too large to be added, and then the number is zero.
  refine ⟨if k.natAbs > 0x7fffffff then Binary64.zero isNegative else x, fun rest ends => ?_⟩
  unfold exponent writeExponent
  rw [List.cons_append, List.cons_append, bind_ok (bump_cons _ _)]
  have sign : exponentSign ((if k < 0 then '-' else '+') :: (Nat.toDigits 10 k.natAbs ++ rest)) =
      .ok (decide (k < 0), Nat.toDigits 10 k.natAbs ++ rest) := by
    by_cases down : k < 0
    · rw [if_pos down, decide_eq_true down]
      rfl
    · rw [if_neg down, decide_eq_false down]
      rfl
  rw [bind_ok sign]
  refine exponentDigits_toDigits (decide (k < 0)) (fun up => ?_) ends ?_
  · have := of_decide_eq_false up
    omega
  · have moved : (if decide (k < 0) then e - k.natAbs else e + k.natAbs) = e + k := by
      simp only [decide_eq_true_eq]
      split <;> omega
    rw [moved]
    exact reads rest ends

/-! ## Fractions -/

/-- A text that can follow the digits of a fraction. -/
def AfterFraction (text : List Char) : Prop := text = [] ∨ ∃ k, text = writeExponent k

/-- What follows a fraction does not go on with a digit. -/
lemma AfterFraction.endsDigits (h : AfterFraction text) {rest : List Char}
    (ends : EndsValue rest) : EndsDigits (text ++ rest) := by
  obtain rfl | ⟨k, rfl⟩ := h
  · exact ends.endsDigits
  · rintro _ ⟨⟩
    rfl

/-- A number is read from a fraction without an exponent. -/
lemma readsDouble_afterFraction_nil
    (h : ReadsDouble (fromParts isNegative significand e) []) :
    ReadsDouble (afterFraction isNegative significand e) [] := by
  obtain ⟨x, reads⟩ := h
  refine ⟨x, fun rest ends => ?_⟩
  rw [← reads rest ends]
  unfold afterFraction
  rw [List.nil_append, bind_ok (peek_apply _)]
  cases rest with
  | nil => rfl
  | cons c rest => obtain rfl | rfl | rfl := ends c rfl <;> rfl

/-- A number is read from a fraction with an exponent. -/
lemma readsDouble_afterFraction_exponent {k : Int} (small : k ≤ 0x7fffffff)
    (h : ReadsDouble (fromParts isNegative significand (e + k)) []) :
    ReadsDouble (afterFraction isNegative significand e) (writeExponent k) := by
  obtain ⟨x, reads⟩ := readsDouble_exponent small h
  exact ⟨x, fun rest ends => reads rest ends⟩

/-- A number is read from its digits with a point among them and what follows the last one. -/
lemma readsDouble_point {places : List Char} (start : Whole whole) (some : places ≠ [])
    (run : ∀ c ∈ places, c.isDigit)
    (value : Nat.ofDigitChars 10 (whole ++ places) 0 = significand)
    (small : significand ≤ greatestInteger) (after : AfterFraction text)
    (h : ReadsDouble (afterFraction isNegative significand (-places.length)) text) :
    ReadsDouble (number isNegative) (whole ++ '.' :: (places ++ text)) := by
  obtain ⟨x, reads⟩ := h
  refine ⟨x, fun rest ends => ?_⟩
  rw [Nat.ofDigitChars_append] at value
  have first : Nat.ofDigitChars 10 whole 0 ≤ greatestInteger := by
    have grows := le_ofDigitChars places (Nat.ofDigitChars 10 whole 0)
    omega
  have point : EndsDigits ('.' :: (places ++ (text ++ rest))) := by
    rintro _ ⟨⟩
    rfl
  have passed := digits_append run (after.endsDigits ends)
  have gathered := @gather_eq places (Nat.ofDigitChars 10 whole 0) (by rwa [value])
  rw [List.append_assoc, List.cons_append, List.append_assoc, number_append start point first]
  unfold afterDigits
  rw [bind_ok (peek_apply _)]
  simp only [List.head?_cons]
  unfold fraction
  rw [bind_ok (bump_cons _ _), bind_ok passed, gathered, value]
  simp [some, reads rest ends]

/-- A number is read from its digits and an exponent. -/
lemma readsDouble_digits {k : Int} (start : Whole whole)
    (value : Nat.ofDigitChars 10 whole 0 = significand) (small : significand ≤ greatestInteger)
    (h : ReadsDouble (exponent isNegative significand 0) (writeExponent k)) :
    ReadsDouble (number isNegative) (whole ++ writeExponent k) := by
  obtain ⟨x, reads⟩ := h
  refine ⟨x, fun rest ends => ?_⟩
  have mark : EndsDigits (writeExponent k ++ rest) := by
    rintro _ ⟨⟩
    rfl
  rw [List.append_assoc, number_append start mark (by rwa [value]), value]
  exact reads rest ends

/-! ## Decimals -/

/-- Zeros may follow digits that are not zero. -/
lemma Whole.append_zeros (h : Whole ds) (nonzero : ds ≠ ['0']) (n : Nat) :
    Whole (ds ++ List.replicate n '0') where
  nonempty := List.append_ne_nil_of_left_ne_nil h.nonempty _
  digits c mem := by
    obtain mem | mem := List.mem_append.1 mem
    · exact h.digits c mem
    · rw [List.eq_of_mem_replicate mem]
      rfl
  noZero first := by
    rw [List.head?_append_of_ne_nil _ h.nonempty] at first
    exact absurd (h.noZero first) nonzero

/-- The first ones of digits can begin a number. -/
lemma Whole.take (h : Whole ds) {n : Nat} (positive : 0 < n) : Whole (ds.take n) where
  nonempty := by simp [h.nonempty, Nat.pos_iff_ne_zero.1 positive]
  digits c mem := h.digits c (List.mem_of_mem_take mem)
  noZero first := by
    rw [List.head?_take, if_neg (Nat.pos_iff_ne_zero.1 positive)] at first
    rw [h.noZero first, List.take_of_length_le (by exact positive)]

/-- A decimal as it is written without an exponent. -/
lemma toList_positional (ds : List Char) (hds : Nat.toDigits 10 d.digits = ds)
    (nonzero : d.digits ≠ 0) (top : Int) (htop : top = ds.length + d.exponent) :
    d.positional.toList =
      if 0 ≤ d.exponent then ds ++ List.replicate d.exponent.toNat '0'
      else if 0 < top then ds.take top.toNat ++ '.' :: ds.drop top.toNat
      else '0' :: '.' :: (List.replicate (-top).toNat '0' ++ ds) := by
  subst hds
  have length : (toString d.digits).length = (Nat.toDigits 10 d.digits).length := by
    simp [← String.length_toList]
  unfold positional zeros
  dsimp only
  rw [length, if_neg (by simpa using nonzero)]
  split
  case isTrue => simp
  case isFalse negative =>
  have negative := Int.not_le.1 negative
  split
  case isTrue inside =>
    have whole : (Nat.toDigits 10 d.digits).length - d.exponent.natAbs = top.toNat := by omega
    rw [if_pos (by omega), whole]
    simp
  case isFalse outside =>
    have places : d.exponent.natAbs - (Nat.toDigits 10 d.digits).length = (-top).toNat := by omega
    rw [if_neg (by omega), places]
    simp

/-- A decimal as it is written with a fraction or an exponent. -/
lemma toList_scientific (ds : List Char) (hds : Nat.toDigits 10 d.digits = ds)
    (top : Int) (htop : top = ds.length + d.exponent) :
    d.scientific.toList =
      if d.digits = 0 then ['0', '.', '0']
      else if 0 ≤ d.exponent ∧ top ≤ 16 then
        ds ++ List.replicate d.exponent.toNat '0' ++ ['.', '0']
      else if -5 < top ∧ top ≤ 16 then
        if 0 < top then ds.take top.toNat ++ '.' :: ds.drop top.toNat
        else '0' :: '.' :: (List.replicate (-top).toNat '0' ++ ds)
      else if ds.length = 1 then ds ++ writeExponent (top - 1)
      else ds.take 1 ++ '.' :: (ds.drop 1 ++ writeExponent (top - 1)) := by
  subst hds
  have length : (toString d.digits).length = (Nat.toDigits 10 d.digits).length := by
    simp [← String.length_toList]
  have list : (toString d.digits).toList = Nat.toDigits 10 d.digits := by simp
  have tail (e : Int) : ((if e < 0 then "e-" else "e+") ++ toString e.natAbs).toList =
      writeExponent e := by
    split
    case isTrue down => simp [writeExponent, down]
    case isFalse up => simp [writeExponent, up]
  unfold scientific
  dsimp only
  rw [length, ← htop]
  by_cases zero : d.digits = 0
  · simp [zero]
  have written := toList_positional _ rfl zero top htop
  simp only [zero, beq_iff_eq, if_false, Bool.and_eq_true, decide_eq_true_eq]
  split
  case isTrue whole =>
    rw [String.toList_append, written, if_pos whole.1]
    rfl
  case isFalse other =>
  split
  case isTrue inside => rw [written, if_neg fun positive => other ⟨positive, inside.2⟩]
  case isFalse =>
  split
  case isTrue => rw [String.toList_append, tail, list]
  case isFalse =>
    rw [String.toList_append, String.toList_append, String.toList_append, tail, list]
    simp

/-- A number is read from its digits and zeros with a point after them. -/
lemma readsDouble_zeros (start : Whole ds) (value : Nat.ofDigitChars 10 ds 0 = significand)
    (nonzero : significand ≠ 0) {n : Nat} (small : significand * 10 ^ (n + 1) ≤ greatestInteger)
    (isNegative : Bool) :
    ReadsDouble (number isNegative) (ds ++ List.replicate n '0' ++ ['.', '0']) := by
  have notZero : ds ≠ ['0'] := by
    rintro rfl
    exact nonzero value.symm
  have onlyZero : Whole ['0'] := whole_toDigits 0
  have total : Nat.ofDigitChars 10 ((ds ++ List.replicate n '0') ++ ['0']) 0 =
      significand * 10 ^ (n + 1) := by
    rw [List.append_assoc, ← List.replicate_succ', Nat.ofDigitChars_append, value,
      Nat.ofDigitChars_replicate_zero, Nat.mul_comm]
  have after : ReadsDouble (afterFraction isNegative (significand * 10 ^ (n + 1))
      (-['0'].length)) [] := readsDouble_afterFraction_nil (readsDouble_of_neg (by decide))
  exact readsDouble_point (start.append_zeros notZero n) (by decide) onlyZero.digits total small
    (.inl rfl) after

/-- A number is read from its digits with a point between two of them. -/
lemma readsDouble_take (start : Whole ds) (value : Nat.ofDigitChars 10 ds 0 = significand)
    (small : significand ≤ greatestInteger) {n : Nat} (positive : 0 < n) (less : n < ds.length)
    (after : AfterFraction text)
    (h : ReadsDouble (afterFraction isNegative significand (n - ds.length)) text) :
    ReadsDouble (number isNegative) (ds.take n ++ '.' :: (ds.drop n ++ text)) := by
  have places : -((ds.drop n).length : Int) = n - ds.length := by
    rw [List.length_drop]
    omega
  rw [← places] at h
  refine readsDouble_point (start.take positive) ?_ ?_ ?_ small after h
  · exact List.ne_nil_of_length_pos (by rw [List.length_drop]; omega)
  · exact fun c mem => start.digits c (List.mem_of_mem_drop mem)
  · rwa [List.take_append_drop]

/-- A number is read from its digits with a point before them, and perhaps zeros in between. -/
lemma readsDouble_behindPoint (start : Whole ds) (value : Nat.ofDigitChars 10 ds 0 = significand)
    (small : significand ≤ greatestInteger) (n : Nat)
    (h : ReadsDouble (fromParts isNegative significand (-(n + ds.length : Nat))) []) :
    ReadsDouble (number isNegative) ('0' :: '.' :: (List.replicate n '0' ++ ds)) := by
  have onlyZero : Whole ['0'] := whole_toDigits 0
  have places : (List.replicate n '0' ++ ds).length = n + ds.length := by simp
  have run : ∀ c ∈ List.replicate n '0' ++ ds, c.isDigit := by
    intro c mem
    obtain mem | mem := List.mem_append.1 mem
    · rw [List.eq_of_mem_replicate mem]
      rfl
    · exact start.digits c mem
  have total : Nat.ofDigitChars 10 (['0'] ++ (List.replicate n '0' ++ ds)) 0 = significand := by
    rw [Nat.ofDigitChars_append, Nat.ofDigitChars_append, Nat.ofDigitChars_replicate_zero]
    exact value
  rw [← places] at h
  have read := readsDouble_point onlyZero
    (List.append_ne_nil_of_right_ne_nil _ start.nonempty) run total small (.inl rfl)
    (readsDouble_afterFraction_nil h)
  rwa [List.append_nil] at read

/-- The digits of a decimal with a fraction or an exponent are read as a number. -/
lemma Written.readsDouble_scientific (h : Written d) (isNegative : Bool) :
    ReadsDouble (number isNegative) d.scientific.toList := by
  have start := whole_toDigits d.digits
  have value := @Nat.ofDigitChars_ten_toDigits d.digits
  have text := toList_scientific (Nat.toDigits 10 d.digits) rfl _ rfl
  have some := @Nat.length_toDigits_pos 10 d.digits
  have below := (@Nat.length_toDigits_le_iff 10 d.digits _ (by decide) some).1 (le_refl _)
  have few : (Nat.toDigits 10 d.digits).length ≤ 19 :=
    (Nat.length_toDigits_le_iff (by decide) (by decide)).2
      (Nat.lt_of_le_of_lt h.digits (by decide))
  have small : d.digits ≤ greatestInteger := Nat.le_trans h.digits (by decide)
  generalize Nat.toDigits 10 d.digits = ds at *
  rw [text]
  by_cases zero : d.digits = 0
  · have onlyZero : Whole ['0'] := whole_toDigits 0
    rw [if_pos zero]
    exact readsDouble_behindPoint onlyZero rfl (Nat.zero_le _) 0 (readsDouble_of_neg (by decide))
  have reads := h.readsDouble zero isNegative
  have near : ds.length + d.exponent - 1 ≤ 0x7fffffff := by
    have := h.exponent_le zero
    omega
  rw [if_neg zero]
  -- The cases are those of `toList_scientific`. Each time the places give back the exponent.
  split
  case isTrue whole =>
    refine readsDouble_zeros start value zero ?_ isNegative
    calc d.digits * 10 ^ (d.exponent.toNat + 1)
      _ ≤ 10 ^ ds.length * 10 ^ (d.exponent.toNat + 1) := Nat.mul_le_mul_right _ below.le
      _ = 10 ^ (ds.length + (d.exponent.toNat + 1)) := (pow_add _ _ _).symm
      _ ≤ 10 ^ 17 := Nat.pow_le_pow_right (by decide) (by omega)
      _ ≤ greatestInteger := by decide
  case isFalse notWhole =>
  split
  case isTrue inside =>
    split
    case isTrue point =>
      have exponent : d.exponent = (ds.length + d.exponent).toNat - ds.length := by omega
      rw [exponent] at reads
      have read := readsDouble_take start value small (by omega) (by omega) (.inl rfl)
        (readsDouble_afterFraction_nil reads)
      rwa [List.append_nil] at read
    case isFalse point =>
      have exponent :
          d.exponent = -((-(ds.length + d.exponent)).toNat + ds.length : Nat) := by omega
      rw [exponent] at reads
      exact readsDouble_behindPoint start value small _ reads
  case isFalse =>
  split
  case isTrue one =>
    have exponent : d.exponent = 0 + (ds.length + d.exponent - 1) := by omega
    rw [exponent] at reads
    exact readsDouble_digits start value small (readsDouble_exponent near reads)
  case isFalse more =>
    have exponent : d.exponent = (1 : Nat) - ds.length + (ds.length + d.exponent - 1) := by omega
    rw [exponent] at reads
    exact readsDouble_take start value small one_pos (by omega) (.inr ⟨_, rfl⟩)
      (readsDouble_afterFraction_exponent near reads)

end Doubles

/-- What is read as a number begins with a digit. -/
lemma exists_cons_of_number {isNegative : Bool} {text rest : List Char} {n : Number}
    (h : number isNegative text = .ok (n, rest)) : ∃ c tail, text = c :: tail ∧ c.isDigit := by
  unfold number at h
  rw [bind_ok (peek_apply _)] at h
  cases text with
  | nil => cases h
  | cons c text =>
    refine ⟨c, text, rfl, ?_⟩
    cases digit : c.isDigit with
    | true => rfl
    | false =>
      simp only [List.head?_cons, digit, Bool.not_false, if_true] at h
      cases h

/-- A written floating point number is read as a floating point number. -/
theorem readsNumber_double {x : Binary64} (finite : x.Finite) :
    ∃ y, ReadsNumber (writeNumber (.double x)) (.double y) := by
  obtain ⟨y, reads⟩ := (written_shortest finite).readsDouble_scientific x.isNegative
  rw [writeNumber, writeDouble]
  generalize (shortest x).scientific.toList = text at *
  have alone := reads [] (by rintro _ ⟨⟩)
  rw [List.append_nil] at alone
  obtain ⟨c, tail, rfl, digit⟩ := exists_cons_of_number alone
  cases e : x.isNegative with
  | true =>
    rw [e] at reads
    refine ⟨y, '-', c :: tail, rfl, .inl rfl, fun rest ends => ?_⟩
    rw [scalar_minus, bind_ok (bump_cons _ _), bind_ok (reads rest ends)]
    rfl
  | false =>
    rw [e] at reads
    refine ⟨y, c, tail, rfl, .inr digit, fun rest ends => ?_⟩
    rw [scalar_digit digit, ← List.cons_append, bind_ok (reads rest ends)]
    rfl

end ScriptMaps.Json.Reader
