import ScriptMaps.Decimal.Shortest
import ScriptMaps.Proofs.Decimal.Rounding

/-!
# The size of shortest decimals

The shortest decimal of a number of the format has at most eighteen digits, and it is not too large
to be read again (`shortest_spec`). One decimal needs care: it rounds to the largest number of the
format but is not read as that number, being too large when its digits and its power of ten are
rounded first. It is not the shortest decimal of that number, as a smaller one is nearer to it.
-/

namespace ScriptMaps.Decimal

open Binary64

/-- The number a decimal stands for. -/
def value (d : Decimal) : ℚ := d.digits * 10 ^ d.exponent

/-! ## Magnitudes -/

/-- A fraction is below the power of ten after the one that is found for it. -/
lemma lt_pow_digitsAbove {fuel num den : Nat} (h : num < den * 10 ^ fuel) :
    num < den * 10 ^ (digitsAbove fuel num den + 1) := by
  induction fuel generalizing den with
  | zero =>
    rw [pow_zero, mul_one] at h
    exact Nat.lt_of_lt_of_le h (Nat.le_mul_of_pos_right den (Nat.pow_pos (by decide)))
  | succ fuel ih =>
    rw [digitsAbove]
    split
    case isTrue small => simpa using small
    case isFalse =>
      have next := @ih (den * 10) (by rw [pow_succ'] at h; linarith)
      rw [pow_succ' 10 (_ + 1), ← mul_assoc]
      exact next

/-- A fraction below one is not multiplied by ten too often. -/
lemma pow_digitsBelow_lt {fuel num den : Nat} (h : num < den * 10) :
    num * 10 ^ digitsBelow fuel num den < den * 10 := by
  induction fuel generalizing num with
  | zero => simpa [digitsBelow] using h
  | succ fuel ih =>
    rw [digitsBelow]
    split
    case isTrue => simpa using h
    case isFalse small =>
      have next := @ih (num * 10) (by omega)
      rw [pow_succ', ← mul_assoc]
      exact next

/-- A fraction is below the power of ten after its magnitude. -/
lemma lt_pow_magnitude {num den : Nat} (h : num < den * 10 ^ 400) :
    (num : ℚ) < den * 10 ^ (magnitude num den + 1) := by
  unfold magnitude
  split
  case isTrue =>
    have above := lt_pow_digitsAbove h
    rw [← @Nat.cast_lt ℚ] at above
    push_cast at above
    exact_mod_cast above
  case isFalse small =>
    have below := @pow_digitsBelow_lt 400 num den (by omega)
    rw [← @Nat.cast_lt ℚ] at below
    push_cast at below
    have positive : (0 : ℚ) < 10 ^ digitsBelow 400 num den := by positivity
    rw [zpow_add₀ (by norm_num), zpow_neg, zpow_natCast, zpow_one]
    refine lt_of_mul_lt_mul_right ?_ positive.le
    have cancel : (den : ℚ) * ((10 ^ digitsBelow 400 num den)⁻¹ * 10) *
        10 ^ digitsBelow 400 num den = den * 10 := by
      field_simp
    rw [cancel]
    exact below

/-! ## Candidates -/

/-- A decimal of at most so many digits that rounds to a number or is not greater than it. -/
structure Candidate (x : Binary64) (count : Nat) (d : Decimal) : Prop where
  digits : d.digits ≤ 10 ^ count
  near : ofDecimal x.isNegative d.digits d.exponent = some x ∨ d.value ≤ x.abs

section Candidates

variable {x : Binary64} {num den count : Nat} {top : Int} {d : Decimal}

/-- The whole part of a fraction as a multiple of a power of ten has so many digits and is not
greater than the fraction. -/
lemma floor_spec (hden : 0 < den) (below : (num : ℚ) < den * 10 ^ (top + 1)) (e : Int)
    (he : e = top - count + 1) :
    num * (power 10 e).2 / (den * (power 10 e).1) < 10 ^ count ∧
      (num * (power 10 e).2 / (den * (power 10 e).1) : Nat) * (10 : ℚ) ^ e * den ≤ num := by
  have positive : 0 < den * 10 ^ e.toNat := Nat.mul_pos hden (Nat.pow_pos (by decide))
  have down : (0 : ℚ) < 10 ^ (-e).toNat := by positivity
  rw [power_eq]
  dsimp only
  constructor
  · rw [Nat.div_lt_iff_lt_mul positive, ← @Nat.cast_lt ℚ]
    push_cast
    rw [pow_toNat (by norm_num) e]
    have scaled : (10 : ℚ) ^ (top + 1) = 10 ^ count * 10 ^ e := by
      rw [← zpow_natCast, ← zpow_add₀ (by norm_num), he]
      congr 1
      omega
    rw [scaled] at below
    nlinarith
  · have floor := Nat.div_mul_le_self (num * 10 ^ (-e).toNat) (den * 10 ^ e.toNat)
    rw [← @Nat.cast_le ℚ] at floor
    push_cast at floor
    rw [pow_toNat (by norm_num) e] at floor
    refine le_of_mul_le_mul_right ?_ down
    linarith

/-- A candidate that is found is one. -/
lemma candidate?_spec (hden : 0 < den) (below : (num : ℚ) < den * 10 ^ (top + 1))
    (h : candidate? x num den top count = some d) : Candidate x count d := by
  have ⟨small, _⟩ := @floor_spec num den count top hden below _ rfl
  unfold candidate? at h
  dsimp only at h small
  generalize num * (power 10 (top - count + 1)).2 / (den * (power 10 (top - count + 1)).1) = floor
    at h small
  split at h
  case h_1 first second =>
    cases h
    split
    · exact ⟨Nat.le_of_lt small, .inl (beq_iff_eq.1 first)⟩
    · exact ⟨small, .inl (beq_iff_eq.1 second)⟩
  case h_2 first _ =>
    cases h
    exact ⟨Nat.le_of_lt small, .inl (beq_iff_eq.1 first)⟩
  case h_3 _ second =>
    cases h
    exact ⟨small, .inl (beq_iff_eq.1 second)⟩
  case h_4 => cases h

/-- The first candidate is one, of at most eighteen digits. -/
lemma firstCandidate_spec {fuel : Nat} (hden : 0 < den) (value : (num : ℚ) = x.abs * den)
    (below : (num : ℚ) < den * 10 ^ (top + 1)) (bound : fuel + count ≤ 18) :
    Candidate x 18 (firstCandidate x num den top fuel count) := by
  induction fuel generalizing count with
  | zero =>
    have ⟨small, floor⟩ := @floor_spec num den count top hden below _ rfl
    have positive : (0 : ℚ) < den := by exact_mod_cast hden
    unfold firstCandidate
    refine ⟨?_, .inr ?_⟩
    · exact Nat.le_of_lt (Nat.lt_of_lt_of_le small (Nat.pow_le_pow_right (by decide) (by omega)))
    · rw [value] at floor
      exact le_of_mul_le_mul_right floor positive
  | succ fuel ih =>
    unfold firstCandidate
    split
    case h_1 d found =>
      have ⟨digits, near⟩ := candidate?_spec hden below found
      exact ⟨Nat.le_trans digits (Nat.pow_le_pow_right (by decide) (by omega)), near⟩
    case h_2 => exact ih (by omega)

end Candidates

/-- Moving zeros into the exponent. -/
lemma stripZeros_spec (fuel : Nat) (d : Decimal) :
    ∃ k ≤ fuel, d.digits = (stripZeros fuel d).digits * 10 ^ k ∧
      (stripZeros fuel d).exponent = d.exponent + k := by
  induction fuel generalizing d with
  | zero => exact ⟨0, le_refl _, by simp [stripZeros], by simp [stripZeros]⟩
  | succ fuel ih =>
    rw [stripZeros]
    split
    case isTrue zero =>
      obtain ⟨k, le, digits, exponent⟩ := ih ⟨d.digits / 10, d.exponent + 1⟩
      have divides : d.digits = d.digits / 10 * 10 := by
        simp only [Bool.and_eq_true, beq_iff_eq] at zero
        omega
      refine ⟨k + 1, by omega, ?_, ?_⟩
      · rw [pow_succ, ← mul_assoc, ← digits]
        exact divides
      · rw [exponent]
        push_cast
        ring
    case isFalse => exact ⟨0, Nat.zero_le _, by simp, by simp⟩

/-- Moving zeros into the exponent does not change what a decimal stands for. -/
lemma value_stripZeros (fuel : Nat) (d : Decimal) : (stripZeros fuel d).value = d.value := by
  obtain ⟨k, _, digits, exponent⟩ := stripZeros_spec fuel d
  rw [value, value, digits, exponent, zpow_add₀ (by norm_num), zpow_natCast]
  push_cast
  ring

/-! ## Shortest decimals -/

/-- The decimal that rounds to the largest number of the format but is too large to be read. -/
def tooLarge : Decimal := ⟨17976931348623158, 292⟩

section Shortest

variable {x : Binary64}

/-- The largest number of the format. -/
def greatest : Nat := (2 ^ 53 - 1) * 2 ^ 971

/-- No number of the format is greater than the largest. -/
lemma abs_le_greatest (h : x.Finite) : x.abs ≤ greatest := by
  have mantissa : (x.mantissa : ℚ) + 1 ≤ 2 ^ 53 := by exact_mod_cast h.mantissa
  have power : (2 : ℚ) ^ x.exponent ≤ 2 ^ (971 : Int) := two_zpow_le h.greatest
  have cast : ((2 ^ 53 - 1 : Nat) : ℚ) = 2 ^ 53 - 1 := by norm_num
  have unfolded : (greatest : ℚ) = (2 ^ 53 - 1) * 2 ^ (971 : Int) := by
    rw [greatest, Nat.cast_mul, Nat.cast_pow, cast, zpow_ofNat, Nat.cast_ofNat]
  have positive : (0 : ℚ) < 2 ^ (971 : Int) := by positivity
  rw [unfolded, Binary64.abs]
  generalize (2 : ℚ) ^ (971 : Int) = top at *
  calc (x.mantissa : ℚ) * 2 ^ x.exponent
    _ ≤ x.mantissa * top := mul_le_mul_of_nonneg_left power (Nat.cast_nonneg x.mantissa)
    _ ≤ (2 ^ 53 - 1) * top := by
      refine mul_le_mul_of_nonneg_right ?_ positive.le
      linarith

/-- No number of the format reaches the bound. -/
lemma abs_lt_overflow (h : x.Finite) : x.abs < overflow := by
  have below : greatest < overflow := by decide +kernel
  have below : (greatest : ℚ) < overflow := by exact_mod_cast below
  exact lt_of_le_of_lt (abs_le_greatest h) below

/-- A decimal that rounds to a number other than zero is at most the bound. -/
lemma value_le_of_ofDecimal {isNegative : Bool} {n : Nat} {e : Int} (nonzero : x.mantissa ≠ 0)
    (h : ofDecimal isNegative n e = some x) : value ⟨n, e⟩ ≤ overflow := by
  unfold ofDecimal at h
  split at h
  case isTrue =>
    cases h
    exact absurd rfl nonzero
  split at h
  case isTrue => cases h
  split at h
  case isTrue =>
    cases h
    exact absurd rfl nonzero
  rw [power_eq] at h
  have down : 0 < 10 ^ (-e).toNat := Nat.pow_pos (by decide)
  have bound := le_of_isSome_round down (Option.isSome_of_eq_some h)
  have positive : (0 : ℚ) < 10 ^ (-e).toNat := by positivity
  push_cast at bound
  rw [pow_toNat (by norm_num) e] at bound
  refine le_of_mul_le_mul_right ?_ positive
  rw [value]
  linarith

/-- The shortest decimal is a candidate from which zeros have been moved into the exponent. -/
lemma exists_candidate (finite : x.Finite) (nonzero : x.mantissa ≠ 0) :
    ∃ d, Candidate x 18 d ∧ shortest x = stripZeros 20 d := by
  obtain ⟨hden, hnum⟩ := toFraction_spec x
  have notZero : x.isZero = false := by simpa [isZero] using nonzero
  have small : x.toFraction.1 < x.toFraction.2 * 10 ^ 400 := by
    have top : overflow ≤ 10 ^ 400 := by decide +kernel
    have top : (overflow : ℚ) ≤ 10 ^ 400 := by exact_mod_cast top
    have positive : (0 : ℚ) < x.toFraction.2 := by exact_mod_cast hden
    have bound := mul_lt_mul_of_pos_right (lt_of_lt_of_le (abs_lt_overflow finite) top) positive
    rw [← hnum, mul_comm] at bound
    exact_mod_cast bound
  refine ⟨firstCandidate x x.toFraction.1 x.toFraction.2
    (magnitude x.toFraction.1 x.toFraction.2) 17 1, ?_, ?_⟩
  · exact firstCandidate_spec hden hnum (lt_pow_magnitude small) (by decide)
  · rw [shortest, notZero]
    rfl

/-- The shortest decimal of zero. -/
lemma shortest_eq_zero (zero : x.mantissa = 0) : shortest x = ⟨0, 0⟩ := by
  have isZero : x.isZero = true := by simpa [isZero] using zero
  rw [shortest, isZero, if_pos rfl]

/-- The shortest decimal is at most the bound. -/
lemma value_shortest_le (finite : x.Finite) : (shortest x).value ≤ overflow := by
  by_cases zero : x.mantissa = 0
  · have none : value ⟨0, 0⟩ = 0 := by rw [value, Nat.cast_zero, zero_mul]
    rw [shortest_eq_zero zero, none]
    exact Nat.cast_nonneg overflow
  · obtain ⟨d, candidate, e⟩ := exists_candidate finite zero
    rw [e, value_stripZeros]
    obtain rounds | below := candidate.near
    · exact value_le_of_ofDecimal zero rounds
    · exact le_trans below (abs_lt_overflow finite).le

/-- The shortest decimal has at most eighteen digits, or is the smallest number of one more. -/
lemma digits_shortest_le (finite : x.Finite) : (shortest x).digits ≤ 10 ^ 18 := by
  by_cases zero : x.mantissa = 0
  · rw [shortest_eq_zero zero]
    exact Nat.zero_le _
  · obtain ⟨d, candidate, e⟩ := exists_candidate finite zero
    obtain ⟨k, _, digits, _⟩ := stripZeros_spec 20 d
    rw [e]
    have whole := candidate.digits
    rw [digits] at whole
    exact Nat.le_trans (Nat.le_mul_of_pos_right _ (Nat.pow_pos (by decide))) whole

/-- Only the largest number is nearest to the decimal that is too large. -/
lemma eq_of_ofDecimal_tooLarge {isNegative : Bool} {k : Nat} (few : k ≤ 20)
    (h : ofDecimal isNegative (tooLarge.digits * 10 ^ k) (292 - k) = some x) :
    x = ⟨isNegative, 2 ^ 53 - 1, 971⟩ := by
  have some : tooLarge.digits * 10 ^ k ≠ 0 := by
    exact Nat.mul_ne_zero (by decide) (Nat.pow_pos (by decide)).ne'
  have notSmall : ¬ (292 - (k : Int) + bitLength (tooLarge.digits * 10 ^ k) < -330) := by omega
  have up : ((292 : Int) - k).toNat = 292 - k := by omega
  have down : (-((292 : Int) - k)).toNat = 0 := by omega
  unfold ofDecimal at h
  rw [if_neg (by simpa using some), if_neg (by omega), if_neg notSmall, power_eq, up, down] at h
  have whole : tooLarge.digits * 10 ^ k * 10 ^ (292 - k) = tooLarge.digits * 10 ^ 292 := by
    rw [mul_assoc, ← pow_add]
    congr 2
    omega
  have rounds : ∀ sign, Binary64.round sign (tooLarge.digits * 10 ^ 292) 1 =
      .some ⟨sign, 2 ^ 53 - 1, 971⟩ := by decide +kernel
  dsimp only at h
  rw [whole, pow_zero, rounds] at h
  exact (Option.some.inj h).symm

/-- The decimal that is too large is no shortest decimal. -/
lemma shortest_ne_tooLarge (finite : x.Finite) : shortest x ≠ tooLarge := by
  intro same
  by_cases zero : x.mantissa = 0
  · rw [shortest_eq_zero zero] at same
    cases same
  obtain ⟨d, candidate, e⟩ := exists_candidate finite zero
  rw [same] at e
  -- A candidate rounds to the number or lies below it. If it rounds to it, then that is the
  -- greatest number, whose shortest decimal is another one.
  obtain rounds | below := candidate.near
  · obtain ⟨k, few, digits, exponent⟩ := stripZeros_spec 20 d
    rw [← e] at digits exponent
    have exponent : d.exponent = 292 - k := by
      have : tooLarge.exponent = 292 := rfl
      omega
    rw [digits, exponent] at rounds
    have nearest : ∀ sign, shortest ⟨sign, 2 ^ 53 - 1, 971⟩ ≠ tooLarge := by decide +kernel
    rw [eq_of_ofDecimal_tooLarge few rounds] at same
    exact nearest _ same
  · rw [← value_stripZeros 20, ← e] at below
    have above : greatest < tooLarge.digits * 10 ^ 292 := by decide +kernel
    have above : (greatest : ℚ) < tooLarge.value := by
      rw [value, show tooLarge.exponent = (292 : Nat) from rfl, zpow_natCast]
      exact_mod_cast above
    exact absurd (lt_of_lt_of_le above below) (not_lt.2 (abs_le_greatest finite))

end Shortest

end ScriptMaps.Decimal
