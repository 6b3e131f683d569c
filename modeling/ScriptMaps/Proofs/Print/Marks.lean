import ScriptMaps.Print.Module
import Mathlib.Tactic

/-!
# Code without marks

Marks record where code came to stand, and nothing else. What a layout writes next depends only on
the text it has so far (`textOnly_step`), which a mark does not change. So pieces are laid out as
the same code with their marks and without them (`code_layout_unmarked`).
-/

namespace ScriptMaps.Print

/-- Whether a piece is a mark. -/
def Piece.isMark : Piece → Bool
  | .mark _ => true
  | _ => false

/-- Pieces without their marks. -/
def unmarked (pieces : List Piece) : List Piece := pieces.filter (!·.isMark)

namespace Layout

/-- A layout that has forgotten all places. -/
def textOnly (l : Layout) : Layout :=
  { code := l.code, depth := l.depth, atLineStart := l.atLineStart }

/-- Recording a place leaves the text as it is. -/
lemma textOnly_place (l : Layout) (pos : Nat) : (l.place pos).textOnly = l.textOnly := by
  unfold place
  split
  case isTrue => rfl
  case isFalse => rfl

/-- What begins a line depends only on the text. -/
lemma textOnly_beginLine (l : Layout) : l.beginLine.textOnly = l.textOnly.beginLine.textOnly := by
  unfold beginLine
  cases l.pending with
  | none => rfl
  | some pos => exact textOnly_place _ pos

/-- What is written depends only on the text. -/
lemma textOnly_write (l : Layout) (s : String) :
    (l.write s).textOnly = (l.textOnly.write s).textOnly := by
  obtain ⟨code, depth, line, column, atLineStart, pending, marks⟩ := l
  unfold write
  cases s.isEmpty with
  | true => rfl
  | false =>
    cases atLineStart with
    | false => rfl
    | true =>
      have begun := textOnly_beginLine ⟨code, depth, line, column, true, pending, marks⟩
      exact congrArg (fun m : Layout => { m with code := m.code ++ s }) begun

/-- Counting lines leaves the text as it is. -/
lemma textOnly_passLines (l : Layout) (s : String) : (l.passLines s).textOnly = l.textOnly := by
  unfold passLines
  split
  case h_1 => rfl
  case h_2 => rfl

/-- What ends a line depends only on the text. -/
lemma textOnly_endLine (l : Layout) : l.endLine.textOnly = l.textOnly.endLine.textOnly := by
  obtain ⟨code, depth, line, column, atLineStart, pending, marks⟩ := l
  cases atLineStart with
  | true => rfl
  | false => rfl

/-- A mark leaves the text as it is. -/
lemma textOnly_step_mark (l : Layout) (pos : Nat) : (l.step (.mark pos)).textOnly = l.textOnly := by
  unfold step
  dsimp only
  split
  case isTrue => rfl
  case isFalse => exact textOnly_place l pos

/-- What a piece adds to the text depends only on the text. -/
lemma textOnly_step (l : Layout) (piece : Piece) :
    (l.step piece).textOnly = (l.textOnly.step piece).textOnly := by
  cases piece with
  | text s => exact textOnly_write l s
  | verbatim s =>
    calc ((l.write s).passLines s).textOnly
      _ = (l.write s).textOnly := textOnly_passLines _ s
      _ = (l.textOnly.write s).textOnly := textOnly_write l s
      _ = ((l.textOnly.write s).passLines s).textOnly := (textOnly_passLines _ s).symm
  | newline => exact textOnly_endLine l
  | indent => rfl
  | dedent => rfl
  | mark pos =>
    calc (l.step (.mark pos)).textOnly
      _ = l.textOnly := textOnly_step_mark l pos
      _ = (l.textOnly.step (.mark pos)).textOnly := (textOnly_step_mark l.textOnly pos).symm

/-- Pieces are laid out as the same text with their marks and without them. -/
lemma textOnly_foldl (pieces : List Piece) {l l' : Layout} (h : l.textOnly = l'.textOnly) :
    (pieces.foldl step l).textOnly = ((unmarked pieces).foldl step l').textOnly := by
  induction pieces generalizing l l' with
  | nil => exact h
  | cons piece pieces ih =>
    -- A piece that is no mark is laid out on both sides.
    have both (kept : unmarked (piece :: pieces) = piece :: unmarked pieces) :
        ((piece :: pieces).foldl step l).textOnly =
          ((unmarked (piece :: pieces)).foldl step l').textOnly := by
      rw [kept]
      apply ih
      rw [textOnly_step, h, ← textOnly_step]
    cases piece with
    | mark pos => exact ih ((textOnly_step_mark l pos).trans h)
    | text | verbatim | newline | indent | dedent => exact both rfl

end Layout

/-- Pieces are laid out as the same code with their marks and without them. -/
theorem code_layout_unmarked (pieces : List Piece) :
    (layout (unmarked pieces)).code = (layout pieces).code := by
  have same := Layout.textOnly_foldl pieces (Eq.refl (Layout.textOnly {}))
  exact (congrArg Layout.code same).symm

end ScriptMaps.Print
