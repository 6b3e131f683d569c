import Mathlib.Tactic
import Mathlib.Data.String.Basic

/-!
# Lines of a text

A text that is cut at its line feeds has as many lines as line feeds and one more
(`length_splitOn_newline`). The cut is made by positions in bytes; what it comes to is said of the
characters (`splitOn_newline`).
-/

namespace ScriptMaps.Text

open String (ofList utf8Len)

/-- The cut of a text at its line feeds. What was cut off before is `acc`, `l` is passed, and `m` is
what has been seen of the current line. -/
lemma splitOnAux_newline (l m r : List Char) (acc : List String) :
    String.splitOnAux (ofList (l ++ m ++ r)) "\n" ⟨utf8Len l⟩ ⟨utf8Len l + utf8Len m⟩ 0 acc =
      acc.reverse ++ (List.splitOnPPrepend (· == '\n') r m.reverse).map ofList := by
  unfold String.splitOnAux
  cases r with
  | nil =>
    have atEnd := String.atEnd_of_valid (l ++ m) []
    have cut := String.extract_of_valid l m []
    rw [List.append_nil] at atEnd cut ⊢
    rw [String.utf8Len_append] at atEnd
    rw [if_pos (atEnd.2 rfl), cut, List.splitOnPPrepend_nil, List.reverse_reverse,
      List.reverse_cons]
    rfl
  | cons c r =>
    have notAtEnd := mt (String.atEnd_of_valid (l ++ m) (c :: r)).1 (List.cons_ne_nil c r)
    have here := String.get_of_valid (l ++ m) (c :: r)
    have next := String.next_of_valid (l ++ m) c r
    rw [String.utf8Len_append] at notAtEnd here next
    rw [if_neg notAtEnd, here, List.headD_cons, List.splitOnPPrepend_cons_eq_if,
      List.reverse_reverse]
    change (if (c == '\n') = true then _ else _) = _
    by_cases same : c = '\n'
    · -- The line is cut off, and the next one begins behind the line feed.
      subst same
      have others := splitOnAux_newline (l ++ m ++ ['\n']) [] r (ofList m :: acc)
      have text : l ++ m ++ ['\n'] ++ [] ++ r = l ++ m ++ '\n' :: r := by simp
      have cut := String.extract_of_valid l m ('\n' :: r)
      have passed : utf8Len (l ++ m ++ ['\n']) = utf8Len l + utf8Len m + 1 := by
        rw [String.utf8Len_append, String.utf8Len_append]
        rfl
      rw [text, passed] at others
      rw [if_pos (beq_self_eq_true _), if_pos (beq_self_eq_true _), next]
      change String.splitOnAux _ _ _ _ _
        (String.Pos.Raw.extract _ _ ⟨utf8Len l + utf8Len m⟩ :: acc) = _
      rw [cut]
      refine others.trans ?_
      rw [List.reverse_cons, List.append_assoc]
      rfl
    · -- The character is one more of the same line.
      have others := splitOnAux_newline l (m ++ [c]) r acc
      have text : l ++ (m ++ [c]) ++ r = l ++ m ++ c :: r := by simp
      have passed : utf8Len l + utf8Len (m ++ [c]) = utf8Len l + utf8Len m + c.utf8Size := by
        rw [String.utf8Len_append, String.utf8Len_cons, String.utf8Len_nil, Nat.zero_add,
          Nat.add_assoc]
      have stays : String.Pos.Raw.unoffsetBy ⟨utf8Len l + utf8Len m⟩ 0 =
          ⟨utf8Len l + utf8Len m⟩ := rfl
      rw [text, passed] at others
      rw [if_neg (by simpa using same), if_neg (by simpa using same), stays, next, others,
        List.reverse_append]
      rfl

/-- A text is cut at its line feeds. -/
lemma splitOn_newline (s : String) : s.splitOn "\n" = (s.toList.splitOn '\n').map ofList := by
  have all := splitOnAux_newline [] [] s.toList []
  rw [List.append_nil, List.nil_append, String.ofList_toList] at all
  exact all

/-- There is one line more than there are line feeds. -/
lemma length_splitOn_newline (s : String) :
    (s.splitOn "\n").length = s.toList.count '\n' + 1 := by
  rw [splitOn_newline, List.length_map]
  generalize s.toList = text
  induction text with
  | nil => rfl
  | cons c text ih =>
    rw [List.splitOn_cons_eq_if_modifyHead, List.count_cons]
    split
    · rw [List.length_cons, ih]
    · rw [List.length_modifyHead, ih, Nat.add_zero]

/-- A text without line feeds is one line. -/
lemma splitOn_newline_eq_singleton {s : String} (h : '\n' ∉ s.toList) : s.splitOn "\n" = [s] := by
  rw [splitOn_newline, List.splitOn_eq_singleton h, List.map_singleton, String.ofList_toList]

end ScriptMaps.Text
