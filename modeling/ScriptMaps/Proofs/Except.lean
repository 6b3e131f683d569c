import Mathlib.Tactic

/-!
# Computations that can fail

What it takes for a computation made of several steps to succeed.
-/

namespace Except

variable {ε α β : Type} {x : Except ε α} {b : β}

/-- A step after a result is the step on this result. -/
@[simp]
lemma ok_bind (a : α) (f : α → Except ε β) : (ok a >>= f) = f a := rfl

/-- No step is made after a failure. -/
@[simp]
lemma error_bind (e : ε) (f : α → Except ε β) : (error e >>= f) = error e := rfl

/-- Two steps succeed if the first does and the second does on its result. -/
lemma bind_eq_ok {f : α → Except ε β} : x >>= f = .ok b ↔ ∃ a, x = .ok a ∧ f a = .ok b := by
  cases x with
  | error e => exact ⟨nofun, nofun⟩
  | ok a => exact ⟨fun h => ⟨a, rfl, h⟩, fun ⟨_, rfl, h⟩ => h⟩

/-- A function can be applied to the result of a computation that succeeds. -/
lemma map_eq_ok {f : α → β} : x.map f = .ok b ↔ ∃ a, x = .ok a ∧ f a = b := by
  cases x with
  | error e => exact ⟨nofun, nofun⟩
  | ok a => exact ⟨fun h => ⟨a, rfl, ok.inj h⟩, fun ⟨_, rfl, h⟩ => congrArg ok h⟩

/-- A computation fails as it does with a function applied to its result. -/
lemma map_eq_error {f : α → β} {e : ε} : x.map f = .error e ↔ x = .error e := by
  cases x with
  | error e' => exact ⟨fun h => congrArg error (error.inj h), fun h => congrArg error (error.inj h)⟩
  | ok a => exact ⟨nofun, nofun⟩

/-- A computation that is known to succeed has a result. -/
lemma exists_eq_ok (h : x.toBool = true) : ∃ b, x = .ok b := by
  cases x with
  | error e => cases h
  | ok b => exact ⟨b, rfl⟩

/-- A computation on a state that is known to succeed has a result and a state after it. -/
lemma exists_eq_ok_mk {σ : Type} {x : Except ε β × σ} (h : x.1.toBool = true) :
    ∃ b s, x = (.ok b, s) := by
  obtain ⟨result, s⟩ := x
  obtain ⟨b, rfl⟩ := exists_eq_ok h
  exact ⟨b, s, rfl⟩

end Except
