import ScriptMaps.Json.Reader
import ScriptMaps.Proofs.Decimal.Shortest

/-!
# Scaling by powers of ten

A number that is read is first an integer, which is then multiplied or divided by powers of ten.
Division always stays in range. Multiplication stays in range if the decimal is a shortest one: the
products that come closest to the bound are computed, one for each power of ten.
-/

namespace ScriptMaps.Json.Reader

open ScriptMaps.Decimal ScriptMaps.Decimal.Binary64

/-! ## Powers of ten -/

/-- The most digits that a shortest decimal can have with a power of ten. -/
def greatestDigits (n : Nat) : Nat :=
  if n = 292 then tooLarge.digits - 1 else min (overflow / 10 ^ n) (10 ^ 18)

/-- What is checked of a power of ten: it is at least one, and its product with the most digits
stays below the bound. -/
def isSafe (n : Nat) : Bool :=
  let (a, b) := (rounded (greatestDigits n)).toFraction
  let (c, d) := (powerOfTen n).toFraction
  d ≤ c && a * c < overflow * (b * d) && (Binary64.round false (greatestDigits n) 1).isSome

/-- The powers of ten that numbers are scaled by are safe. -/
lemma isSafe_eq_true {n : Nat} (h : n ≤ 308) : isSafe n = true := by
  have all : ∀ n : Fin 309, isSafe n = true := by decide +kernel
  exact all ⟨n, Nat.lt_succ_of_le h⟩

/-- Integers are rounded to numbers of the format. -/
lemma finite_rounded (n : Nat) : (rounded n).Finite := by
  unfold rounded
  cases e : Binary64.round false n 1 with
  | none => exact finite_zero false
  | some x => exact finite_round (by decide) e

/-- Powers of ten are at least one. -/
lemma one_le_abs_powerOfTen {n : Nat} (h : n ≤ 308) : 1 ≤ (powerOfTen n).abs := by
  have safe := isSafe_eq_true h
  simp only [isSafe, Bool.and_eq_true, decide_eq_true_eq] at safe
  obtain ⟨⟨large, _⟩, _⟩ := safe
  obtain ⟨positive, fraction⟩ := toFraction_spec (powerOfTen n)
  have large : ((powerOfTen n).toFraction.2 : ℚ) ≤ (powerOfTen n).toFraction.1 := by
    exact_mod_cast large
  have positive : (0 : ℚ) < (powerOfTen n).toFraction.2 := by exact_mod_cast positive
  rw [fraction] at large
  exact (le_mul_iff_one_le_left positive).1 large

/-- Few enough digits multiplied by a power of ten stay below the bound. -/
lemma abs_mul_powerOfTen_lt {n m : Nat} (h : n ≤ 308) (few : m ≤ greatestDigits n) :
    (rounded m).abs * (powerOfTen n).abs < overflow := by
  have safe := isSafe_eq_true h
  simp only [isSafe, Bool.and_eq_true, decide_eq_true_eq] at safe
  obtain ⟨⟨_, below⟩, isSome⟩ := safe
  -- The bound was computed for the greatest significand, and rounding keeps the others below it.
  have order : (rounded m).abs ≤ (rounded (greatestDigits n)).abs := by
    obtain ⟨y, rounds⟩ := Option.isSome_iff_exists.1 isSome
    cases e : Binary64.round false m 1 with
    | none =>
      rw [rounded, e, Option.getD_none, abs_zero]
      exact abs_nonneg _
    | some x =>
      rw [rounded, rounded, e, rounds]
      exact abs_round_mono (by decide) few e rounds
  obtain ⟨hb, ha⟩ := toFraction_spec (rounded (greatestDigits n))
  obtain ⟨hd, hc⟩ := toFraction_spec (powerOfTen n)
  generalize (rounded (greatestDigits n)).toFraction = x at *
  generalize (powerOfTen n).toFraction = y at *
  have positive : (0 : ℚ) < x.2 * y.2 := by positivity
  rw [← @Nat.cast_lt ℚ] at below
  push_cast at below
  rw [ha, hc] at below
  have product : (rounded (greatestDigits n)).abs * (powerOfTen n).abs < overflow := by
    refine lt_of_mul_lt_mul_right ?_ positive.le
    linarith
  exact lt_of_le_of_lt (mul_le_mul_of_nonneg_right order (abs_nonneg _)) product

/-! ## Scaling -/

section Scale

variable {x : Binary64} {e : Int}

/-- A number is scaled by a small power of ten in one step. -/
lemma scale_small (fuel : Nat) (h : e.natAbs ≤ 308) :
    scale (fuel + 1) x e =
      if e ≥ 0 then x.multiply (powerOfTen e.toNat) else x.divide (powerOfTen e.natAbs) := by
  rw [scale, if_pos h]

/-- A number can be divided by a power of ten. -/
lemma isSome_divide_powerOfTen (finite : x.Finite) {n : Nat} (h : n ≤ 308) :
    (x.divide (powerOfTen n)).isSome := by
  have one := one_le_abs_powerOfTen h
  refine isSome_divide (lt_of_lt_of_le one_pos one) ?_
  calc x.abs
    _ < overflow := abs_lt_overflow finite
    _ ≤ overflow * (powerOfTen n).abs := le_mul_of_one_le_right (Nat.cast_nonneg _) one

/-- A number can be scaled by a negative power of ten. -/
lemma isSome_scale_of_neg (finite : x.Finite) (fuel : Nat) (h : e < 0) :
    (scale fuel x e).isSome := by
  induction fuel generalizing x e with
  | zero => rfl
  | succ fuel ih =>
    by_cases small : e.natAbs ≤ 308
    · rw [scale_small fuel small, if_neg (by omega)]
      exact isSome_divide_powerOfTen finite small
    · rw [scale, if_neg small]
      split
      case isTrue => rfl
      case isFalse =>
        have one := one_le_abs_powerOfTen (le_refl 308)
        obtain ⟨y, divides⟩ := Option.isSome_iff_exists.1
          (isSome_divide_powerOfTen finite (le_refl 308))
        rw [if_neg (by omega), divides]
        exact ih (finite_divide (lt_of_lt_of_le one_pos one) divides) (by omega)

/-- Scaling gives numbers of the format. -/
lemma finite_scale {y : Binary64} (finite : x.Finite) {fuel : Nat}
    (h : scale fuel x e = some y) : y.Finite := by
  induction fuel generalizing x e with
  | zero =>
    cases h
    exact finite
  | succ fuel ih =>
    by_cases small : e.natAbs ≤ 308
    · have one := one_le_abs_powerOfTen small
      rw [scale_small fuel small] at h
      split at h
      case isTrue => exact finite_multiply h
      case isFalse => exact finite_divide (lt_of_lt_of_le one_pos one) h
    · rw [scale, if_neg small] at h
      split at h
      case isTrue =>
        cases h
        exact finite
      split at h
      case isTrue => cases h
      case isFalse =>
        have one := one_le_abs_powerOfTen (le_refl 308)
        obtain ⟨z, divides, h⟩ := Option.bind_eq_some_iff.1 h
        exact ih (finite_divide (lt_of_lt_of_le one_pos one) divides) h

end Scale

/-- A decimal as it is written for a number: not too large, with few digits. -/
structure Written (d : Decimal) : Prop where
  digits : d.digits ≤ 10 ^ 18
  bound : d.value ≤ overflow
  notTooLarge : d ≠ tooLarge

/-- A shortest decimal is written for a number. -/
lemma written_shortest {x : Binary64} (finite : x.Finite) : Written (shortest x) :=
  ⟨digits_shortest_le finite, value_shortest_le finite, shortest_ne_tooLarge finite⟩

section Written

variable {d : Decimal}

/-- The exponent of a decimal that is not zero is at most that of the bound. -/
lemma Written.exponent_le (h : Written d) (nonzero : d.digits ≠ 0) : d.exponent ≤ 308 := by
  by_contra large
  have one : (1 : ℚ) ≤ d.digits := by exact_mod_cast Nat.one_le_iff_ne_zero.2 nonzero
  have power : (10 : ℚ) ^ (309 : Nat) ≤ 10 ^ d.exponent := by
    rw [← zpow_natCast]
    exact zpow_le_zpow_right₀ (by norm_num) (by omega)
  have top : overflow < 10 ^ 309 := by decide +kernel
  have top : (overflow : ℚ) < 10 ^ (309 : Nat) := by exact_mod_cast top
  have value : (10 : ℚ) ^ d.exponent ≤ d.value := le_mul_of_one_le_left (by positivity) one
  exact absurd (lt_of_le_of_lt h.bound top) (not_lt.2 (le_trans power value))

/-- The digits of a decimal are few enough for its power of ten. -/
lemma Written.digits_le (h : Written d) {n : Nat} (exponent : d.exponent = n) :
    d.digits ≤ greatestDigits n := by
  have value : (d.digits : ℚ) * 10 ^ n ≤ overflow := by
    have bound := h.bound
    rwa [Decimal.value, exponent, zpow_natCast] at bound
  have digits : d.digits ≤ overflow / 10 ^ n := by
    rw [Nat.le_div_iff_mul_le (Nat.pow_pos (by decide))]
    exact_mod_cast value
  unfold greatestDigits
  split
  case isTrue top =>
    subst top
    have most : overflow / 10 ^ 292 = tooLarge.digits := by decide +kernel
    have other : d.digits ≠ tooLarge.digits := by
      intro same
      obtain ⟨digits, e⟩ := d
      exact h.notTooLarge (congrArg₂ Decimal.mk same exponent)
    omega
  case isFalse => exact Nat.le_min.2 ⟨digits, h.digits⟩

/-- A decimal that was written for a number other than zero is scaled to a number. -/
lemma Written.isSome_scale (h : Written d) (nonzero : d.digits ≠ 0) :
    (scale 20 (rounded d.digits) (max d.exponent (-5000))).isSome := by
  obtain negative | positive := Int.lt_or_le d.exponent 0
  · exact isSome_scale_of_neg (finite_rounded _) 20 (by omega)
  obtain ⟨n, exponent⟩ := Int.eq_ofNat_of_zero_le positive
  rw [max_eq_left (by omega), exponent]
  have small := h.exponent_le nonzero
  rw [scale_small 19 (by omega), if_pos (by omega)]
  exact isSome_multiply (abs_mul_powerOfTen_lt (by omega) (h.digits_le exponent))

end Written

end ScriptMaps.Json.Reader
