import ScriptMaps.SourceMap.Vlq
import Mathlib.Tactic

/-!
# Reading back variable-length integers

Decoding undoes encoding: the text of an integer of few enough bits is read back as that integer,
whatever text follows it (`decode_encode_append`), so that a text of several integers is read back
as their list. Written integers consist of digits of base 64 alone and take up at least one.
-/

namespace ScriptMaps.SourceMap

/-- A digit stands for its number. -/
lemma base64Value?_base64Digit {n : Nat} (h : n < 64) : base64Value? (base64Digit n) = some n := by
  have all : ∀ n : Fin 64, base64Value? (base64Digit n) = some n.val := by
    decide +kernel
  exact all ⟨n, h⟩

namespace Vlq

/-! ## Writing -/

/-- The numbers of the digits of a number are those of base 64. -/
lemma digitsOf_lt {fuel n : Nat} : ∀ d ∈ digitsOf fuel n, d < 64 := by
  induction fuel generalizing n with
  | zero => nofun
  | succ fuel ih =>
    intro d h
    rw [digitsOf] at h
    split at h
    · simp only [List.mem_singleton] at h
      omega
    · obtain rfl | h := List.mem_cons.1 h
      · omega
      · exact ih d h

/-- A written integer is not empty. -/
lemma encode_ne_nil (n : Int) : encode n ≠ [] := by
  unfold encode digitsOf
  simp only [ne_eq, List.map_eq_nil_iff]
  split <;> simp

/-- A written integer consists of digits. -/
lemma mem_base64Digits_of_mem_encode {n : Int} {c : Char} (h : c ∈ encode n) :
    c ∈ base64Digits := by
  obtain ⟨d, hd, rfl⟩ := List.mem_map.1 h
  have all : ∀ d : Fin 64, base64Digit d ∈ base64Digits := by decide +kernel
  exact all ⟨d, digitsOf_lt d hd⟩

/-! ## Reading -/

/-- The digits of a written integer are read one by one. -/
lemma flatMap_digitsOfChar_encode (n : Int) :
    (encode n).flatMap digitsOfChar = digitsOf (fold n + 1) (fold n) := by
  have digits (ds : List Nat) (h : ∀ d ∈ ds, d < 64) :
      (ds.map base64Digit).flatMap digitsOfChar = ds := by
    induction ds with
    | nil => rfl
    | cons d ds ih =>
      have hd := base64Value?_base64Digit (h d List.mem_cons_self)
      rw [List.map_cons, List.flatMap_cons, ih fun d hd => h d (List.mem_cons_of_mem _ hd)]
      simp [digitsOfChar, hd]
  exact digits _ digitsOf_lt

/-- Small numbers are not changed by computing in 64 bits. -/
lemma wrap64_of_lt {n : Int} (h : -2 ^ 63 ≤ n) (k : n < 2 ^ 63) : wrap64 n = n := by
  rw [wrap64, Int.bmod_def]
  split <;> omega

/-- Small natural numbers are not changed by computing in 64 bits. -/
lemma wrap64_natCast {n : Nat} (h : n < 2 ^ 63) : wrap64 n = n := by
  apply wrap64_of_lt <;> omega

/-- The digits of a number are read as that number, moved up by the bits read before and added to
what these came to. -/
lemma decodeFrom_digitsOf {fuel n sum shift : Nat} {ds : List Nat} (enough : n < fuel)
    (shifted : shift = 0 ∨ 0 < n) (small : sum + n * 2 ^ shift < 2 ^ 63) :
    decodeFrom sum shift (digitsOf fuel n ++ ds) =
      (decodeFrom 0 0 ds).map (unfold (sum + n * 2 ^ shift : Nat) :: ·) := by
  induction fuel generalizing n sum shift with
  | zero => omega
  | succ fuel ih =>
    have below : shift < 63 := by
      obtain rfl | h := shifted
      · decide
      · have : 2 ^ shift ≤ n * 2 ^ shift := Nat.le_mul_of_pos_left _ h
        exact (Nat.pow_lt_pow_iff_right (by decide : 1 < 2)).1 (by omega)
    have read {d : Nat} (h : sum + d % 32 * 2 ^ shift < 2 ^ 63) :
        wrap64 (sum + wrap64 ((d % 32) <<< shift : Nat)) = (sum + d % 32 * 2 ^ shift : Nat) := by
      rw [Nat.shiftLeft_eq, wrap64_natCast (by omega), ← Int.natCast_add, wrap64_natCast h]
    rw [digitsOf]
    split
    case isTrue h =>
      rw [List.singleton_append, decodeFrom, if_neg (by omega), read, if_pos h]
      · rw [Nat.mod_eq_of_lt h]
      · rwa [Nat.mod_eq_of_lt h]
    case isFalse h =>
      -- The low five bits come first, and the rest of the number stands five bits higher.
      have parts : n * 2 ^ shift = n % 32 * 2 ^ shift + n / 32 * 2 ^ (shift + 5) := by
        rw [pow_add, mul_comm (2 ^ shift), ← mul_assoc, ← add_mul]
        congr 1
        omega
      have low : (n % 32 + 32) % 32 = n % 32 := by omega
      rw [List.cons_append, decodeFrom, if_neg (by omega), read (by rw [low]; omega),
        if_neg (by omega), low, ih (by omega) (.inr (by omega)) (by omega), parts, add_assoc]

/-- The sign comes back out of the lowest bit. -/
lemma unfold_fold {n : Int} (h : n.natAbs < 2 ^ 62) : unfold (fold n) = n := by
  by_cases negative : n < 0
  · have folded : (fold n : Int) = -2 * n + 1 := by
      simp only [fold, if_pos negative]
      omega
    have odd : ((-2 * n + 1) % 2 == 0) = false := by
      simp only [beq_eq_false_iff_ne, ne_eq]
      omega
    simp only [unfold, folded, odd, Bool.false_eq_true, ite_false]
    rw [wrap64_of_lt] <;> omega
  · have folded : (fold n : Int) = 2 * n := by
      simp only [fold, if_neg negative]
      omega
    simp [unfold, folded]

/-- A written integer before other text is read back first. -/
lemma decode_encode_append {n : Int} {text : List Char} (h : n.natAbs < 2 ^ 62) :
    decode (encode n ++ text) = (decode text).map (n :: ·) := by
  have small : fold n < 2 ^ 63 := by
    unfold fold
    split <;> omega
  have read := @decodeFrom_digitsOf (fold n + 1) (fold n) 0 0 (text.flatMap digitsOfChar)
    (Nat.lt_succ_self _) (.inl rfl) (by omega)
  rw [pow_zero, mul_one, zero_add, unfold_fold h] at read
  unfold decode
  rw [List.flatMap_append, flatMap_digitsOfChar_encode]
  exact read

/-- A written integer is read back. -/
lemma decode_encode {n : Int} (h : n.natAbs < 2 ^ 62) : decode (encode n) = .ok [n] := by
  have read := @decode_encode_append n [] h
  rwa [List.append_nil] at read

end Vlq

end ScriptMaps.SourceMap
