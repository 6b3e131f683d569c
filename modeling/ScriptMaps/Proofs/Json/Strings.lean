import ScriptMaps.Proofs.Json.Running

/-!
# Reading back strings

A written string is read back as that string, whatever characters it has (`string_writeString`).
-/

namespace ScriptMaps.Json.Reader

/-- The escape of a control character without a letter of its own is read back. -/
lemma hexQuad?_twoHexDigits {n : Nat} (h : n < 32) :
    hexQuad? ('0' :: '0' :: twoHexDigits n) = some n := by
  have all : ∀ n : Fin 32, hexQuad? ('0' :: '0' :: twoHexDigits n) = some n.val := by decide
  exact all ⟨n, h⟩

/-- The escape of a control character is four digits long. -/
lemma byteCount_twoHexDigits {n : Nat} (h : n < 32) :
    byteCount ('0' :: '0' :: twoHexDigits n) = 4 := by
  have all : ∀ n : Fin 32, byteCount ('0' :: '0' :: twoHexDigits n) = 4 := by decide
  exact all ⟨n, h⟩

/-- The digits of an escape are read. -/
lemma hexEscape_twoHexDigits {n : Nat} (h : n < 32) (rest : List Char) :
    hexEscape ('0' :: '0' :: (twoHexDigits n ++ rest)) = .ok (n, rest) := by
  have quad := hexQuad?_twoHexDigits h
  have count := byteCount_twoHexDigits h
  unfold twoHexDigits at quad count ⊢
  unfold hexEscape
  simp [quad, count]

/-- An escaped character is read back after the backslash. -/
lemma escape_escapeChar {c : Char} {text : List Char} (h : escapeChar c = '\\' :: text)
    (rest : List Char) : escape true (text ++ rest) = .ok (c, rest) := by
  unfold escapeChar at h
  split at h
  case isTrue quote =>
    obtain rfl := beq_iff_eq.1 quote
    cases h
    rfl
  split at h
  case isTrue backslash =>
    obtain rfl := beq_iff_eq.1 backslash
    cases h
    rfl
  case isFalse notBackslash =>
  split at h
  case isTrue =>
    cases h
    exact absurd rfl notBackslash
  case isFalse control =>
  split at h
  case isTrue number =>
    obtain rfl : c = '\x08' := Char.toNat_inj.1 (beq_iff_eq.1 number)
    cases h
    rfl
  split at h
  case isTrue number =>
    obtain rfl : c = '\t' := Char.toNat_inj.1 (beq_iff_eq.1 number)
    cases h
    rfl
  split at h
  case isTrue number =>
    obtain rfl : c = '\n' := Char.toNat_inj.1 (beq_iff_eq.1 number)
    cases h
    rfl
  split at h
  case isTrue number =>
    obtain rfl : c = '\x0c' := Char.toNat_inj.1 (beq_iff_eq.1 number)
    cases h
    rfl
  split at h
  case isTrue number =>
    obtain rfl : c = '\r' := Char.toNat_inj.1 (beq_iff_eq.1 number)
    cases h
    rfl
  case isFalse =>
    cases h
    -- What is left are control characters without a letter of their own.
    have small : c.toNat < 32 := Nat.lt_of_not_le control
    have noSurrogate : ¬ 0xdc00 ≤ c.toNat ∧ ¬ 0xd800 ≤ c.toNat := by omega
    change escape true ('u' :: '0' :: '0' :: (twoHexDigits c.toNat ++ rest)) = _
    unfold escape
    rw [bind_ok (next_cons _ _)]
    simp [hexEscape_twoHexDigits small rest, noSurrogate]

/-- A character is written as it is or as an escape. -/
lemma escapeChar_eq (c : Char) :
    (∃ text, escapeChar c = '\\' :: text) ∨
      escapeChar c = [c] ∧ c ≠ '"' ∧ c ≠ '\\' ∧ 0x20 ≤ c.toNat := by
  unfold escapeChar
  split
  · exact .inl ⟨_, rfl⟩
  case isFalse notQuote =>
  split
  · exact .inl ⟨_, rfl⟩
  case isFalse notBackslash =>
  split
  · exact .inr ⟨rfl, by simpa using notQuote, by simpa using notBackslash, by assumption⟩
  all_goals exact .inl (by split_ifs <;> exact ⟨_, rfl⟩)

/-- The characters of a string are read back one by one. -/
lemma stringRest_flatMap {cs : List Char} {fuel : Nat} (enough : cs.length < fuel)
    (found rest : List Char) :
    stringRest true fuel found (cs.flatMap escapeChar ++ '"' :: rest) =
      .ok (String.ofList (found.reverse ++ cs), rest) := by
  induction cs generalizing fuel found with
  | nil =>
    obtain ⟨fuel, rfl⟩ := Nat.exists_eq_add_one.2 enough
    rw [List.append_nil]
    rfl
  | cons c cs ih =>
    obtain ⟨fuel, rfl⟩ := Nat.exists_eq_add_one_of_ne_zero (Nat.ne_of_gt (Nat.zero_lt_of_lt enough))
    have others := @ih fuel (Nat.lt_of_succ_lt_succ enough) (c :: found)
    rw [List.reverse_cons, List.append_assoc, List.singleton_append] at others
    rw [List.flatMap_cons, List.append_assoc, stringRest]
    obtain ⟨text, escaped⟩ | ⟨plain, notQuote, notBackslash, visible⟩ := escapeChar_eq c
    · have one := escape_escapeChar escaped (cs.flatMap escapeChar ++ '"' :: rest)
      rw [escaped, List.cons_append, bind_ok (peek_apply _)]
      change ((escape true >>= fun d => stringRest true fuel (d :: found)) : Reader String)
        (text ++ (cs.flatMap escapeChar ++ '"' :: rest)) = _
      rw [bind_ok one]
      exact others
    · have notControl : ¬ c.toNat < 0x20 := Nat.not_lt.2 visible
      rw [plain, List.singleton_append, bind_ok (peek_apply _)]
      dsimp only [List.head?_cons]
      rw [bind_ok (bump_cons _ _), if_neg (by simpa using notQuote),
        if_neg (by simpa using notBackslash), if_neg notControl]
      exact others

/-- Writing characters does not make them fewer. -/
lemma length_le_flatMap (cs : List Char) : cs.length ≤ (cs.flatMap escapeChar).length := by
  induction cs with
  | nil => exact Nat.le_refl _
  | cons c cs ih =>
    have one : 1 ≤ (escapeChar c).length := by
      obtain ⟨text, escaped⟩ | ⟨plain, _⟩ := escapeChar_eq c
      · simp [escaped]
      · simp [plain]
    rw [List.flatMap_cons, List.length_append, List.length_cons]
    omega

/-- A written string is read back. -/
lemma string_writeString (s : String) (rest : List Char) :
    string true (writeString s ++ rest) = .ok (s, rest) := by
  have text : writeString s ++ rest = '"' :: (s.toList.flatMap escapeChar ++ '"' :: rest) := by
    simp [writeString]
  have enough : s.toList.length < (s.toList.flatMap escapeChar ++ '"' :: rest).length + 1 := by
    have := length_le_flatMap s.toList
    rw [List.length_append]
    omega
  rw [text, string, bind_ok (bump_cons _ _), bind_ok (bound_apply _),
    stringRest_flatMap enough, List.reverse_nil, List.nil_append, String.ofList_toList]

end ScriptMaps.Json.Reader
