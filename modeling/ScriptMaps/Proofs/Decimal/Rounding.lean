import ScriptMaps.Decimal.Binary64
import Mathlib.Tactic

/-!
# Rounding to the binary format

What rounding a fraction to the format gives: a number that the format has, and one for every
fraction below the bound from which on rounding overflows (`isSome_round`). Rounding keeps the order
of natural numbers (`abs_round_mono`). Fractions and powers of two are compared as rationals.
-/

namespace ScriptMaps.Decimal.Binary64

/-- A number that the format has. -/
structure Finite (x : Binary64) : Prop where
  mantissa : x.mantissa < 2 ^ 53
  least : leastExponent ≤ x.exponent
  greatest : x.exponent ≤ greatestExponent

/-- The absolute value of a number. -/
def abs (x : Binary64) : ℚ := x.mantissa * 2 ^ x.exponent

/-- The bound from which on fractions are too large for the format: halfway between the largest
number of the format and the next one that it would have with larger exponents. -/
def overflow : Nat := (2 ^ 54 - 1) * 2 ^ 970

/-! ## Powers of two -/

/-- The limit of mantissas as a power. -/
lemma mantissaLimit_eq : mantissaLimit = 2 ^ 53 := by
  norm_num [mantissaLimit]

/-- A power as a fraction. -/
lemma power_eq (base : Nat) (e : Int) : power base e = (base ^ e.toNat, base ^ (-e).toNat) := by
  unfold power
  split
  case isTrue negative =>
    have numerator : e.toNat = 0 := by omega
    have denominator : e.natAbs = (-e).toNat := by omega
    rw [numerator, denominator]
    rfl
  case isFalse positive =>
    have numerator : e.natAbs = e.toNat := by omega
    have denominator : (-e).toNat = 0 := by omega
    rw [numerator, denominator]
    rfl

/-- The numerator of a power is the power times the denominator. -/
lemma pow_toNat {base : ℚ} (nonzero : base ≠ 0) (e : Int) :
    base ^ e.toNat = base ^ e * base ^ (-e).toNat := by
  rw [← zpow_natCast, ← zpow_natCast, ← zpow_add₀ nonzero]
  congr 1
  omega

/-- Larger powers of two have larger exponents. -/
lemma two_zpow_le {a b : Int} (h : a ≤ b) : (2 : ℚ) ^ a ≤ 2 ^ b :=
  zpow_le_zpow_right₀ (by norm_num) h

/-- A positive number lies between the powers of two that its number of digits tells. -/
lemma bitLength_bounds {n : Nat} (positive : 0 < n) :
    (2 : ℚ) ^ ((bitLength n : Int) - 1) ≤ n ∧ (n : ℚ) < 2 ^ (bitLength n : Int) := by
  have nonzero : n ≠ 0 := Nat.ne_of_gt positive
  have length : bitLength n = n.log2 + 1 := by simp [bitLength, nonzero]
  rw [length]
  constructor
  · have low := Nat.log2_self_le nonzero
    have exponent : ((n.log2 + 1 : Nat) : Int) - 1 = (n.log2 : Nat) := by push_cast; ring
    rw [exponent, zpow_natCast]
    exact_mod_cast low
  · have high := @Nat.lt_log2_self n
    rw [zpow_natCast]
    exact_mod_cast high

/-! ## Quotients -/

/-- Rounding a quotient changes it by half at most. -/
lemma divideToEven_bounds {a b : Nat} (positive : 0 < b) :
    2 * (divideToEven a b * b) ≤ 2 * a + b ∧ 2 * a ≤ 2 * (divideToEven a b * b) + b := by
  have parts := Nat.div_add_mod' a b
  have rest := Nat.mod_lt a positive
  unfold divideToEven
  dsimp only
  split
  case isTrue up =>
    have half : 2 * (a % b) ≥ b := by
      simp only [Bool.or_eq_true, decide_eq_true_eq, Bool.and_eq_true, beq_iff_eq] at up
      omega
    rw [Nat.add_mul]
    omega
  case isFalse down =>
    have half : 2 * (a % b) ≤ b := by
      simp only [Bool.or_eq_true, decide_eq_true_eq, not_or] at down
      omega
    omega

/-- A rounded quotient is at most the bound of the quotient. -/
lemma divideToEven_le {a b k : Nat} (h : a < b * k) : divideToEven a b ≤ k := by
  have below : a / b < k := Nat.div_lt_of_lt_mul h
  unfold divideToEven
  dsimp only
  split <;> omega

/-- A rounded quotient is at least the whole part of the quotient. -/
lemma div_le_divideToEven (a b : Nat) : a / b ≤ divideToEven a b := by
  unfold divideToEven
  dsimp only
  split <;> omega

/-- Rounding keeps the order of quotients. -/
lemma divideToEven_mono {a b c : Nat} (h : a ≤ c) : divideToEven a b ≤ divideToEven c b := by
  have wholes : a / b ≤ c / b := Nat.div_le_div_right h
  -- Rounding moves by less than one, so the remainders only matter if the whole parts agree.
  obtain less | same := Nat.lt_or_eq_of_le wholes
  · have up : divideToEven a b ≤ a / b + 1 := by
      unfold divideToEven
      dsimp only
      split <;> omega
    exact Nat.le_trans up (Nat.le_trans less (div_le_divideToEven c b))
  · have rests : a % b ≤ c % b := by
      have := Nat.div_add_mod a b
      have := Nat.div_add_mod c b
      rw [same] at *
      omega
    unfold divideToEven
    dsimp only
    rw [same]
    split
    case isTrue up =>
      split
      · exact Nat.le_refl _
      case isFalse down =>
        simp only [Bool.or_eq_true, decide_eq_true_eq, Bool.and_eq_true, beq_iff_eq] at up down
        omega
    case isFalse => split <;> omega

/-! ## The exponent -/

section Exponent

variable {num den : Nat} {e : Int}

/-- A fraction fits a power of two if it is smaller than that power times the limit. -/
lemma fits_iff : fits num den e ↔ (num : ℚ) < den * 2 ^ (e + 53) := by
  have positive : (0 : ℚ) < 2 ^ (-e).toNat := by positivity
  have limit : (mantissaLimit : ℚ) = 2 ^ (53 : Int) := by
    rw [mantissaLimit_eq]
    norm_num
  have left : ((num * 2 ^ (-e).toNat : Nat) : ℚ) = num * 2 ^ (-e).toNat := by
    rw [Nat.cast_mul, Nat.cast_pow, Nat.cast_ofNat]
  have right : ((den * 2 ^ e.toNat * mantissaLimit : Nat) : ℚ) =
      den * 2 ^ (e + 53) * 2 ^ (-e).toNat := by
    rw [Nat.cast_mul, Nat.cast_mul, Nat.cast_pow, Nat.cast_ofNat, pow_toNat (by norm_num) e, limit,
      zpow_add₀ (by norm_num)]
    ring
  unfold fits
  rw [power_eq]
  simp only [decide_eq_true_eq]
  rw [← @Nat.cast_lt ℚ, left, right]
  exact mul_lt_mul_iff_left₀ positive

/-- The exponent is the least of the format's that the fraction fits. -/
lemma exponentFor_le_iff (hnum : 0 < num) (hden : 0 < den) :
    exponentFor num den ≤ e ↔ leastExponent ≤ e ∧ (num : ℚ) < den * 2 ^ (e + 53) := by
  have ⟨numLow, numHigh⟩ := bitLength_bounds hnum
  have ⟨denLow, denHigh⟩ := bitLength_bounds hden
  have positive : (0 : ℚ) < den := by exact_mod_cast hden
  unfold exponentFor
  dsimp only
  -- The bit lengths alone tell the exponent up to one: `low` and `high` are the bounds they give.
  generalize hguess : (bitLength num : Int) - bitLength den - 53 = guess
  have low : (den : ℚ) * 2 ^ (guess + 52) < num := by
    calc (den : ℚ) * 2 ^ (guess + 52) < 2 ^ (bitLength den : Int) * 2 ^ (guess + 52) := by gcongr
      _ = 2 ^ ((bitLength num : Int) - 1) := by
        rw [← zpow_add₀ (by norm_num)]
        congr 1
        omega
      _ ≤ num := numLow
  have high : (num : ℚ) < den * 2 ^ (guess + 54) := by
    calc (num : ℚ) < 2 ^ (bitLength num : Int) := numHigh
      _ = 2 ^ ((bitLength den : Int) - 1) * 2 ^ (guess + 54) := by
        rw [← zpow_add₀ (by norm_num)]
        congr 1
        omega
      _ ≤ den * 2 ^ (guess + 54) := by gcongr
  have scale {a b : Int} (h : a ≤ b) : (den : ℚ) * 2 ^ a ≤ den * 2 ^ b :=
    mul_le_mul_of_nonneg_left (two_zpow_le h) positive.le
  rw [max_le_iff, and_congr_right_iff]
  intro _
  split
  case isTrue fit =>
    rw [fits_iff] at fit
    constructor
    · intro h
      exact lt_of_lt_of_le fit (scale (by omega))
    · intro h
      by_contra less
      exact absurd (lt_of_lt_of_le h (scale (show e + 53 ≤ guess + 52 by omega))) low.not_gt
  case isFalse unfit =>
    rw [fits_iff] at unfit
    constructor
    · intro h
      exact lt_of_lt_of_le high (scale (by omega))
    · intro h
      by_contra less
      exact unfit (lt_of_lt_of_le h (scale (by omega)))

end Exponent

/-! ## Rounding -/

section Round

variable {isNegative : Bool} {num den : Nat} {e : Int} {x y : Binary64}

/-- Rounding to a multiple of a power of two changes a fraction by half of the power at most. -/
lemma quotient_bounds (hden : 0 < den) :
    2 * ((quotient num den e : ℚ) * (den * 2 ^ e)) ≤ 2 * num + den * 2 ^ e ∧
      2 * (num : ℚ) ≤ 2 * (quotient num den e * (den * 2 ^ e)) + den * 2 ^ e := by
  have positive : (0 : ℚ) < 2 ^ (-e).toNat := by positivity
  have bounds := @divideToEven_bounds (num * 2 ^ (-e).toNat) (den * 2 ^ e.toNat)
    (Nat.mul_pos hden (Nat.two_pow_pos _))
  have same : quotient num den e = divideToEven (num * 2 ^ (-e).toNat) (den * 2 ^ e.toNat) := by
    rw [quotient, power_eq]
  rw [← same, ← @Nat.cast_le ℚ, ← @Nat.cast_le ℚ] at bounds
  push_cast at bounds
  rw [pow_toNat (by norm_num) e] at bounds
  constructor
  · refine le_of_mul_le_mul_right ?_ positive
    linarith [bounds.1]
  · refine le_of_mul_le_mul_right ?_ positive
    linarith [bounds.2]

/-- A fraction that fits a power of two is rounded to at most the limit. -/
lemma quotient_le (h : fits num den e) : quotient num den e ≤ 2 ^ 53 := by
  unfold fits at h
  rw [power_eq] at h
  simp only [decide_eq_true_eq] at h
  rw [mantissaLimit_eq] at h
  rw [quotient, power_eq]
  exact divideToEven_le h

/-- A fraction fits its exponent. -/
lemma fits_exponentFor (hnum : 0 < num) (hden : 0 < den) :
    leastExponent ≤ exponentFor num den ∧ fits num den (exponentFor num den) := by
  rw [fits_iff]
  exact (exponentFor_le_iff hnum hden).1 (le_refl _)

/-- A number with an exponent of the format's is in range. -/
lemma inRange_eq_some_iff : inRange x = some y ↔ x = y ∧ x.exponent ≤ greatestExponent := by
  unfold inRange
  split
  case isTrue large =>
    exact ⟨nofun, fun h => absurd h.2 (Int.not_le.2 large)⟩
  case isFalse small =>
    simp [Int.not_lt.1 small]

/-- A number is in range if its exponent is one of the format's. -/
lemma isSome_inRange : (inRange x).isSome ↔ x.exponent ≤ greatestExponent := by
  rw [Option.isSome_iff_exists]
  exact ⟨fun ⟨_, h⟩ => (inRange_eq_some_iff.1 h).2, fun h => ⟨x, inRange_eq_some_iff.2 ⟨rfl, h⟩⟩⟩

/-- A number from a mantissa up to the limit is one of the format, and is the mantissa times the
power of two. -/
lemma ofParts_spec {mantissa : Nat} (bound : mantissa ≤ 2 ^ 53) (least : leastExponent ≤ e)
    (h : ofParts isNegative mantissa e = some x) : x.Finite ∧ x.abs = mantissa * 2 ^ e := by
  unfold ofParts at h
  rw [mantissaLimit_eq] at h
  split at h
  case isTrue full =>
    obtain rfl := beq_iff_eq.1 full
    have half : (2 ^ 53 : Nat) / 2 = 2 ^ 52 := by norm_num
    rw [half] at h
    obtain ⟨rfl, greatest⟩ := inRange_eq_some_iff.1 h
    refine ⟨⟨Nat.pow_lt_pow_right (by decide) (by decide), ?_, greatest⟩, ?_⟩
    · exact Int.le_trans least (Int.le_add_one (le_refl _))
    · rw [abs, zpow_add₀ (by norm_num)]
      push_cast
      ring
  case isFalse less =>
    obtain ⟨rfl, greatest⟩ := inRange_eq_some_iff.1 h
    have less := Nat.lt_of_le_of_ne bound (mt beq_iff_eq.2 less)
    exact ⟨⟨less, least, greatest⟩, rfl⟩

/-- A mantissa up to the limit gives a number unless it comes to the power of two that is out of
range. -/
lemma isSome_ofParts {mantissa : Nat} (bound : mantissa ≤ 2 ^ 53) :
    (ofParts isNegative mantissa e).isSome ↔
      e < greatestExponent ∨ e = greatestExponent ∧ mantissa < 2 ^ 53 := by
  unfold ofParts
  rw [mantissaLimit_eq]
  split
  case isTrue full =>
    have := beq_iff_eq.1 full
    rw [isSome_inRange]
    dsimp only
    omega
  case isFalse less =>
    have := mt beq_iff_eq.2 less
    rw [isSome_inRange]
    dsimp only
    omega

/-- Rounding a positive fraction. -/
lemma round_eq (hnum : 0 < num) :
    round isNegative num den =
      ofParts isNegative (quotient num den (exponentFor num den)) (exponentFor num den) := by
  unfold round
  rw [if_neg]
  simpa using Nat.ne_of_gt hnum

/-- A rounded fraction is a number of the format, and its absolute value is the rounded quotient
times the power of two. -/
lemma round_spec (hnum : 0 < num) (hden : 0 < den) (h : round isNegative num den = some x) :
    x.Finite ∧ x.abs = quotient num den (exponentFor num den) * 2 ^ exponentFor num den := by
  obtain ⟨least, fit⟩ := fits_exponentFor hnum hden
  rw [round_eq hnum] at h
  exact ofParts_spec (quotient_le fit) least h

/-- The bound in powers of two. -/
lemma overflow_eq : (overflow : ℚ) = (2 ^ 54 - 1) * 2 ^ (970 : Int) := by
  have cast : ((2 ^ 54 - 1 : Nat) : ℚ) = 2 ^ 54 - 1 := by norm_num
  rw [overflow, Nat.cast_mul, Nat.cast_pow, cast, zpow_ofNat, Nat.cast_ofNat]

/-- The largest power of two, as twice the one before it. -/
lemma two_zpow_greatest : (2 : ℚ) ^ greatestExponent = 2 * 2 ^ (970 : Int) := by
  rw [show greatestExponent = 1 + 970 from rfl, zpow_add₀ (by norm_num), zpow_one]

/-- A fraction below the bound is not too large. -/
lemma isSome_round (hden : 0 < den) (h : (num : ℚ) < den * overflow) :
    (round isNegative num den).isSome := by
  obtain rfl | hnum := Nat.eq_zero_or_pos num
  · rfl
  have positive : (0 : ℚ) < den * 2 ^ (970 : Int) := by positivity
  have ⟨least, fit⟩ := fits_exponentFor hnum hden
  rw [overflow_eq] at h
  have bound : exponentFor num den ≤ greatestExponent := by
    refine (exponentFor_le_iff hnum hden).2 ⟨by decide, ?_⟩
    rw [zpow_add₀ (by norm_num), two_zpow_greatest, zpow_ofNat 2 53]
    generalize (2 : ℚ) ^ (970 : Int) = top at *
    linarith
  rw [round_eq hnum, isSome_ofParts (quotient_le fit)]
  obtain less | same := Int.lt_or_eq_of_le bound
  · exact .inl less
  · refine .inr ⟨same, Nat.lt_of_le_of_ne (quotient_le fit) fun full => ?_⟩
    have bounds := (@quotient_bounds num den (exponentFor num den) hden).1
    rw [full, same, two_zpow_greatest, Nat.cast_pow, Nat.cast_ofNat] at bounds
    generalize (2 : ℚ) ^ (970 : Int) = top at *
    linarith

/-- A fraction that is not too large is at most the bound. -/
lemma le_of_isSome_round (hden : 0 < den) (h : (round isNegative num den).isSome) :
    (num : ℚ) ≤ den * overflow := by
  obtain rfl | hnum := Nat.eq_zero_or_pos num
  · rw [Nat.cast_zero]
    exact mul_nonneg (Nat.cast_nonneg den) (Nat.cast_nonneg overflow)
  have positive : (0 : ℚ) < den * 2 ^ (970 : Int) := by positivity
  have ⟨least, fit⟩ := fits_exponentFor hnum hden
  rw [round_eq hnum, isSome_ofParts (quotient_le fit)] at h
  rw [overflow_eq]
  -- Only at the greatest exponent does it matter how large the quotient is.
  obtain less | ⟨same, below⟩ := h
  · have small := ((@exponentFor_le_iff num den 970 hnum hden).1 (Int.le_of_lt_add_one less)).2
    rw [zpow_add₀ (by norm_num), zpow_ofNat 2 53] at small
    generalize (2 : ℚ) ^ (970 : Int) = top at *
    linarith
  · have bounds := (@quotient_bounds num den (exponentFor num den) hden).2
    have whole : (quotient num den (exponentFor num den) : ℚ) + 1 ≤ 2 ^ 53 := by
      exact_mod_cast below
    rw [same, two_zpow_greatest] at bounds
    rw [same] at whole
    generalize (2 : ℚ) ^ (970 : Int) = top at *
    have scaled := mul_le_mul_of_nonneg_right whole positive.le
    linarith

/-- Zero is a number of the format. -/
lemma finite_zero (isNegative : Bool) : (zero isNegative).Finite :=
  ⟨Nat.two_pow_pos 53, le_refl _, show leastExponent ≤ greatestExponent by decide⟩

/-- The absolute value of zero. -/
lemma abs_zero (isNegative : Bool) : (zero isNegative).abs = 0 := by
  simp [abs, zero]

/-- Rounding gives numbers of the format. -/
lemma finite_round (hden : 0 < den) (h : round isNegative num den = some x) : x.Finite := by
  obtain rfl | hnum := Nat.eq_zero_or_pos num
  · cases h
    exact finite_zero isNegative
  · exact (round_spec hnum hden h).1

/-- Absolute values are not negative. -/
lemma abs_nonneg (x : Binary64) : 0 ≤ x.abs := by
  unfold abs
  positivity

/-- A fraction whose exponent is above the least is rounded to a mantissa of full length. -/
lemma le_quotient_of_lt (hnum : 0 < num) (hden : 0 < den)
    (h : leastExponent < exponentFor num den) :
    2 ^ 52 ≤ quotient num den (exponentFor num den) := by
  have large : (den : ℚ) * 2 ^ (exponentFor num den + 52) ≤ num := by
    by_contra small
    have fit : (num : ℚ) < den * 2 ^ (exponentFor num den - 1 + 53) := by
      rw [show exponentFor num den - 1 + 53 = exponentFor num den + 52 by ring]
      exact not_le.1 small
    have := (exponentFor_le_iff hnum hden).2 ⟨Int.le_sub_one_of_lt h, fit⟩
    omega
  have bounds := (@quotient_bounds num den (exponentFor num den) hden).2
  have positive : (0 : ℚ) < den * 2 ^ exponentFor num den := by positivity
  rw [zpow_add₀ (by norm_num), zpow_ofNat 2 52] at large
  generalize (2 : ℚ) ^ exponentFor num den = unit at *
  have half : ((2 ^ 52 : Nat) : ℚ) < quotient num den (exponentFor num den) + 1 := by
    refine lt_of_mul_lt_mul_right ?_ positive.le
    push_cast
    linarith
  exact_mod_cast Nat.le_of_lt_add_one (by exact_mod_cast half)

/-- Rounding keeps the order of fractions with one denominator. -/
lemma abs_round_mono {num' : Nat} {isNegative' : Bool} (hden : 0 < den) (le : num ≤ num')
    (hx : round isNegative num den = some x) (hy : round isNegative' num' den = some y) :
    x.abs ≤ y.abs := by
  obtain rfl | hnum := Nat.eq_zero_or_pos num
  · cases hx
    rw [abs_zero]
    exact abs_nonneg y
  have hnum' : 0 < num' := Nat.lt_of_lt_of_le hnum le
  have ⟨least, fit⟩ := fits_exponentFor hnum hden
  have ⟨least', fit'⟩ := fits_exponentFor hnum' hden
  have cast : (num : ℚ) ≤ num' := by exact_mod_cast le
  have exponents : exponentFor num den ≤ exponentFor num' den :=
    (exponentFor_le_iff hnum hden).2 ⟨least', lt_of_le_of_lt cast (fits_iff.1 fit')⟩
  rw [(round_spec hnum hden hx).2, (round_spec hnum' hden hy).2]
  -- A power of two lies between numbers of different exponents. If the exponents agree, then
  -- the quotients are to be compared.
  obtain less | same := Int.lt_or_eq_of_le exponents
  · have upper : (quotient num den (exponentFor num den) : ℚ) ≤ 2 ^ (53 : Int) := by
      rw [zpow_ofNat]
      exact_mod_cast quotient_le fit
    have lower : (2 : ℚ) ^ (52 : Int) ≤ quotient num' den (exponentFor num' den) := by
      rw [zpow_ofNat]
      exact_mod_cast le_quotient_of_lt hnum' hden (Int.lt_of_le_of_lt least less)
    calc (quotient num den (exponentFor num den) : ℚ) * 2 ^ exponentFor num den
        ≤ 2 ^ (53 : Int) * 2 ^ exponentFor num den := by gcongr
      _ = 2 ^ (53 + exponentFor num den) := by rw [zpow_add₀ (by norm_num)]
      _ ≤ 2 ^ (52 + exponentFor num' den) := two_zpow_le (by omega)
      _ = 2 ^ (52 : Int) * 2 ^ exponentFor num' den := by rw [zpow_add₀ (by norm_num)]
      _ ≤ quotient num' den (exponentFor num' den) * 2 ^ exponentFor num' den := by gcongr
  · rw [same]
    have quotients : quotient num den (exponentFor num' den) ≤
        quotient num' den (exponentFor num' den) := by
      rw [quotient, quotient, power_eq]
      exact divideToEven_mono (Nat.mul_le_mul_right _ le)
    gcongr

end Round

/-! ## Products and quotients -/

section Operations

variable {x y z : Binary64}

/-- A number as a fraction. -/
lemma toFraction_spec (x : Binary64) :
    0 < x.toFraction.2 ∧ (x.toFraction.1 : ℚ) = x.abs * x.toFraction.2 := by
  unfold toFraction abs
  rw [power_eq]
  refine ⟨Nat.two_pow_pos _, ?_⟩
  push_cast
  rw [pow_toNat (by norm_num)]
  ring

/-- A product is that of the fractions, rounded. -/
lemma multiply_eq (x y : Binary64) :
    x.multiply y = round (x.isNegative != y.isNegative) (x.toFraction.1 * y.toFraction.1)
      (x.toFraction.2 * y.toFraction.2) := rfl

/-- A quotient is that of the fractions, rounded. -/
lemma divide_eq (x y : Binary64) :
    x.divide y = round (x.isNegative != y.isNegative) (x.toFraction.1 * y.toFraction.2)
      (x.toFraction.2 * y.toFraction.1) := rfl

/-- A product that is small enough is in range. -/
lemma isSome_multiply (h : x.abs * y.abs < overflow) : (x.multiply y).isSome := by
  obtain ⟨hb, ha⟩ := toFraction_spec x
  obtain ⟨hd, hc⟩ := toFraction_spec y
  have positive : (0 : ℚ) < x.toFraction.2 * y.toFraction.2 := by positivity
  rw [multiply_eq]
  refine isSome_round (Nat.mul_pos hb hd) ?_
  push_cast
  rw [ha, hc]
  nlinarith

/-- Products are numbers of the format. -/
lemma finite_multiply (h : x.multiply y = some z) : z.Finite :=
  finite_round (Nat.mul_pos (toFraction_spec x).1 (toFraction_spec y).1) h

/-- A quotient that is small enough is in range. -/
lemma isSome_divide (hy : 0 < y.abs) (h : x.abs < overflow * y.abs) : (x.divide y).isSome := by
  obtain ⟨hb, ha⟩ := toFraction_spec x
  obtain ⟨hd, hc⟩ := toFraction_spec y
  have positive : (0 : ℚ) < x.toFraction.2 * y.toFraction.2 := by positivity
  have numerator : 0 < y.toFraction.1 := by
    have : (0 : ℚ) < y.toFraction.1 := by
      rw [hc]
      positivity
    exact_mod_cast this
  rw [divide_eq]
  refine isSome_round (Nat.mul_pos hb numerator) ?_
  push_cast
  rw [ha, hc]
  nlinarith

/-- Quotients are numbers of the format. -/
lemma finite_divide (hy : 0 < y.abs) (h : x.divide y = some z) : z.Finite := by
  obtain ⟨hd, hc⟩ := toFraction_spec y
  have numerator : 0 < y.toFraction.1 := by
    have : (0 : ℚ) < y.toFraction.1 := by
      rw [hc]
      positivity
    exact_mod_cast this
  exact finite_round (Nat.mul_pos (toFraction_spec x).1 numerator) h

end Operations

end ScriptMaps.Decimal.Binary64
