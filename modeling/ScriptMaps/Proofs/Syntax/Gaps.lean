import ScriptMaps.Syntax.Parser.Basic
import Mathlib.Data.List.TakeWhile
import Mathlib.Tactic

/-!
# Gaps at the end of a text

What stands between two tokens is passed over step by step, each step a blank, the end of a line or
a comment (`Gap.Step`). A gap without a fault is nothing but such steps (`exists_steps`), and they
are the same if a line with a comment follows the end of the text (`Step.followed`). So that comment
is one more in the gap (`skipGap_lineAfter`), and the parser puts it behind all others.
-/

namespace ScriptMaps.Syntax

open ScriptMaps.Text

/-- What a cursor starts with is followed by a rest. -/
lemma Cursor.exists_of_startsWith {c : Cursor} {text : String} (h : c.startsWith text = true) :
    ∃ r, c.rest = text.toList ++ r := by
  obtain ⟨r, eq⟩ := List.isPrefixOf_iff_prefix.1 h
  exact ⟨r, eq.symm⟩

namespace Gap

/-- All faults of a gap, those that wait included. -/
def noted (g : Gap) : List Fault := g.faults ++ g.waiting

/-- A gap in a text that goes on after what was its end. -/
def followed (g : Gap) (tail : List Char) : Gap :=
  { g with cursor := ⟨g.cursor.rest ++ tail, g.cursor.pos⟩ }

/-- One blank, line end or comment of a gap. -/
inductive Step : Gap → Gap → Prop where
  | lineEnd {g c r} :
    g.cursor.rest = c :: r →
    isLineEnd c = true →
    Step g { g with cursor := g.cursor.advance 1, lineBreak := true }
  | blank {g c r} :
    g.cursor.rest = c :: r →
    isLineEnd c = false →
    isInlineBlank c = true →
    Step g { g with cursor := g.cursor.advance 1 }
  | line {g r} :
    g.cursor.rest = '/' :: '/' :: r →
    Step g (g.passLine 2)
  | block {g r body} :
    g.cursor.rest = '/' :: '*' :: r →
    blockCommentBody r = some body →
    Step g (g.pass (g.cursor.advance (body.length + 4)) true body)

/-- Any number of blanks, line ends and comments. -/
abbrev Steps : Gap → Gap → Prop := Relation.ReflTransGen Step

variable {fuel : Nat} {g g' : Gap}

/-- Passing over what was refused notes nothing more. -/
lemma noted_passRefused (g : Gap) (width : Nat) : (g.passRefused width).noted = g.noted :=
  List.append_nil _

/-- A line that is refused is noted where it begins. -/
lemma noted_refuseLine (g : Gap) (width : Nat) (cause : Cause) :
    (g.refuseLine width cause).noted = g.noted ++ [⟨g.cursor.pos, cause⟩] :=
  (noted_passRefused _ width).trans (List.append_nil _)

/-- The fault of a line that is refused has been noted. -/
lemma mem_noted_refuseLine (g : Gap) (width : Nat) (cause : Cause) :
    ⟨g.cursor.pos, cause⟩ ∈ (g.refuseLine width cause).noted := by
  rw [noted_refuseLine]
  exact List.mem_append_right _ (List.mem_singleton_self _)

/-- What has been noted is not forgotten. -/
lemma mem_faults_skipGap {fault : Fault} (noted : fault ∈ g.noted) :
    fault ∈ (skipGap fuel g).faults := by
  fun_induction skipGap fuel g
  case case1 | case2 | case11 => exact noted
  case case3 ih | case4 ih | case5 ih | case7 ih => exact ih noted
  case case6 =>
    rcases List.mem_append.1 noted with found | waiting
    · exact List.mem_append_left _ (List.mem_append_left _ found)
    · exact List.mem_append_right _ waiting
  case case8 ih =>
    apply ih
    exact List.mem_append_left _ noted
  case case9 ih | case10 ih =>
    apply ih
    rw [noted_refuseLine]
    exact List.mem_append_left _ noted

/-- A gap without a fault is passed over by blanks, line ends and comments. -/
lemma exists_steps (faultless : (skipGap fuel g).faults = []) :
    ∃ g', Steps g g' ∧ skipGap fuel g = g'.settle := by
  have absent (fuel : Nat) (g : Gap) (fault : Fault) (h : (skipGap fuel g).faults = []) :
      fault ∉ g.noted := by
    intro noted
    have mem := @mem_faults_skipGap fuel g fault noted
    rw [h] at mem
    exact List.not_mem_nil mem
  -- The cases are those of `skipGap`: the gap ends here, a step is made, or a fault is noted.
  fun_induction skipGap fuel g
  case case1 g | case2 g _ _ | case11 g _ _ _ _ _ _ _ _ _ _ _ => exact ⟨g, .refl, rfl⟩
  case case3 rest lineEnd ih =>
    obtain ⟨g', steps, eq⟩ := ih faultless
    exact ⟨g', .head (.lineEnd rest lineEnd) steps, eq⟩
  case case4 rest lineEnd blank ih =>
    obtain ⟨g', steps, eq⟩ := ih faultless
    exact ⟨g', .head (.blank rest (Bool.eq_false_of_not_eq_true lineEnd) blank) steps, eq⟩
  case case5 opens ih =>
    obtain ⟨r, rest⟩ := Cursor.exists_of_startsWith opens
    obtain ⟨g', steps, eq⟩ := ih faultless
    exact ⟨g', .head (.line rest) steps, eq⟩
  case case6 => exact absurd faultless (by simp [settle])
  case case7 opens body found ih =>
    obtain ⟨r, rest⟩ := Cursor.exists_of_startsWith opens
    obtain ⟨g', steps, eq⟩ := ih faultless
    have body : blockCommentBody r = some body := by
      rw [← found, Cursor.advance, rest]
      rfl
    exact ⟨g', .head (.block rest body) steps, eq⟩
  case case8 =>
    exact (absent _ _ _ faultless (List.mem_append_right _ (List.mem_singleton_self _))).elim
  case case9 | case10 => exact (absent _ _ _ faultless (mem_noted_refuseLine _ _ _)).elim

/-! ## Following the steps -/

/-- A step is what skipping does first. -/
lemma Step.skipGap (step : Step g g') (fuel : Nat) :
    skipGap (fuel + 1) g = Syntax.skipGap fuel g' := by
  cases step with
  | lineEnd rest lineEnd =>
    rw [Syntax.skipGap, rest]
    simp [lineEnd]
  | blank rest lineEnd blank =>
    rw [Syntax.skipGap, rest]
    simp [lineEnd, blank]
  | line rest =>
    have opens : g.cursor.startsWith "//" = true := by
      rw [Cursor.startsWith, rest]
      rfl
    rw [Syntax.skipGap, rest]
    simp only [opens]
    rfl
  | block rest body =>
    have opens : g.cursor.startsWith "/*" = true := by
      rw [Cursor.startsWith, rest]
      rfl
    have notLine : g.cursor.startsWith "//" = false := by
      rw [Cursor.startsWith, rest]
      rfl
    have inside : (g.cursor.advance 2).rest = _ := congrArg (List.drop 2) rest
    rw [Syntax.skipGap, rest]
    simp only [opens, notLine, inside]
    simp only [List.drop, body]
    rfl

/-- A step passes over something. -/
lemma Step.shorter (step : Step g g') : g'.cursor.rest.length < g.cursor.rest.length := by
  cases step with
  | lineEnd rest _ | blank rest _ _ =>
    rw [Cursor.advance, rest]
    exact Nat.lt_succ_self _
  | line rest =>
    have short := (List.dropWhile_suffix (l := (g.cursor.advance 2).rest) (!isLineEnd ·)).length_le
    have inside : (g.cursor.advance 2).rest = _ := congrArg (List.drop 2) rest
    rw [inside] at short
    rw [rest]
    change (List.dropWhile _ _).length < _
    rw [inside]
    exact Nat.lt_succ_of_le (Nat.le_succ_of_le short)
  | block rest _ =>
    rw [rest]
    change (g.cursor.rest.drop _).length < _
    rw [rest, List.length_drop]
    simp only [List.length_cons]
    omega

/-- Skipping gets as far as any steps do. -/
lemma Steps.skipGap (steps : Steps g g') (enough : g.cursor.rest.length < fuel) :
    ∃ fuel', g'.cursor.rest.length < fuel' ∧ skipGap fuel g = Syntax.skipGap fuel' g' := by
  induction steps using Relation.ReflTransGen.head_induction_on generalizing fuel with
  | refl => exact ⟨fuel, enough, rfl⟩
  | head step _ ih =>
    obtain ⟨fuel, rfl⟩ := Nat.exists_eq_succ_of_ne_zero (Nat.ne_zero_of_lt enough)
    obtain ⟨fuel', enough', eq⟩ := ih (step.shorter.trans_le (Nat.le_of_lt_succ enough))
    exact ⟨fuel', enough', (step.skipGap fuel).trans eq⟩

/-! ## A line after the end -/

/-- A line comment on a line of its own. -/
def lineAfter (body : List Char) : List Char := '\n' :: '/' :: '/' :: body

/-- A line ends no later if another line comes after it. -/
lemma takeWhile_append_lineAfter (r body : List Char) :
    (r ++ lineAfter body).takeWhile (!isLineEnd ·) = r.takeWhile (!isLineEnd ·) := by
  rw [List.takeWhile_append]
  split
  case isTrue whole =>
    rw [(List.takeWhile_prefix _).eq_of_length whole]
    exact List.append_nil r
  case isFalse => rfl

/-- What comes after a line is followed by another line. -/
lemma dropWhile_append_lineAfter (r body : List Char) :
    (r ++ lineAfter body).dropWhile (!isLineEnd ·) =
      r.dropWhile (!isLineEnd ·) ++ lineAfter body := by
  rw [List.dropWhile_append]
  split
  case isTrue empty =>
    rw [List.isEmpty_iff.1 empty]
    rfl
  case isFalse => rfl

/-- Behind the body of a block comment there stand its two last characters. -/
lemma length_blockCommentBody {r body : List Char} (found : blockCommentBody r = some body) :
    body.length + 2 ≤ r.length := by
  fun_induction blockCommentBody r generalizing body with
  | case1 => cases found
  | case2 =>
    cases found
    exact Nat.le_add_left _ _
  | case3 c r _ ih =>
    obtain ⟨rest, inner, rfl⟩ := Option.map_eq_some_iff.1 found
    exact Nat.succ_le_succ (ih inner)

/-- A comment ends where it ends, whatever follows. -/
lemma blockCommentBody_append {r body : List Char} (found : blockCommentBody r = some body)
    (tail : List Char) : blockCommentBody (r ++ tail) = some body := by
  fun_induction blockCommentBody r generalizing body with
  | case1 => cases found
  | case2 => exact found
  | case3 c r more ih =>
    obtain ⟨rest, inner, rfl⟩ := Option.map_eq_some_iff.1 found
    have goesOn (r' : List Char) (star : c = '*') (slash : r ++ tail = '/' :: r') : False := by
      cases r with
      | nil => cases inner
      | cons d r => exact more r star (by rw [(List.cons.inj slash).1])
    rw [List.cons_append, blockCommentBody, ih inner]
    · rfl
    · exact goesOn

/-- No semicolon comes with the line that follows. -/
lemma pass_followed (g : Gap) (after : Cursor) (isBlock : Bool) (body tail : List Char) :
    (g.pass after isBlock body).followed (lineAfter tail) =
      (g.followed (lineAfter tail)).pass
        ⟨after.rest ++ lineAfter tail, after.pos⟩ isBlock body := by
  have semicolon : (((after.rest ++ lineAfter tail).dropWhile fun c =>
      isLineEnd c || isInlineBlank c).head? == some ';') =
      ((after.rest.dropWhile fun c => isLineEnd c || isInlineBlank c).head? == some ';') := by
    rw [List.dropWhile_append]
    split
    case isTrue empty =>
      rw [List.isEmpty_iff.1 empty]
      rfl
    case isFalse nonempty =>
      rw [List.head?_append_of_ne_nil _ (fun nil => nonempty (List.isEmpty_iff.2 nil))]
  unfold followed pass
  dsimp only
  rw [semicolon]

/-- Moving on within the text does not touch what follows it. -/
lemma advance_followed (g : Gap) (tail : List Char) {n : Nat} (inside : n ≤ g.cursor.rest.length) :
    (g.followed tail).cursor.advance n =
      ⟨(g.cursor.advance n).rest ++ tail, (g.cursor.advance n).pos⟩ := by
  unfold followed Cursor.advance
  rw [List.drop_append_of_le_length inside]

/-- A step is the same if a line follows the end of the text. -/
lemma Step.followed (step : Step g g') (body : List Char) :
    Step (g.followed (lineAfter body)) (g'.followed (lineAfter body)) := by
  have extended {r : List Char} (rest : g.cursor.rest = r) :
      (g.followed (lineAfter body)).cursor.rest = r ++ lineAfter body := by
    rw [← rest]
    rfl
  -- Steps look no further than the text they pass. A line comment may look for the end of its line
  -- up to the end of the text, and finds it there in what follows.
  cases step with
  | lineEnd rest lineEnd =>
    have step := Step.lineEnd (extended rest) lineEnd
    rw [advance_followed g _ (by rw [rest]; exact Nat.le_add_left _ _)] at step
    exact step
  | blank rest lineEnd blank =>
    have step := Step.blank (extended rest) lineEnd blank
    rw [advance_followed g _ (by rw [rest]; exact Nat.le_add_left _ _)] at step
    exact step
  | line rest =>
    have step := Step.line (extended rest)
    unfold passLine at step ⊢
    rw [pass_followed]
    rw [advance_followed g _ (by rw [rest]; exact Nat.le_add_left _ _)] at step
    unfold Cursor.span at step ⊢
    dsimp only at step ⊢
    rw [takeWhile_append_lineAfter, dropWhile_append_lineAfter] at step
    exact step
  | block rest found =>
    have step := Step.block (extended rest) (blockCommentBody_append found _)
    have inside := length_blockCommentBody found
    rw [advance_followed g _ (by rw [rest]; exact Nat.add_le_add_right inside 2)] at step
    rw [pass_followed]
    exact step

/-- Any steps are the same if a line follows the end of the text. -/
lemma Steps.followed (steps : Steps g g') (body : List Char) :
    Steps (g.followed (lineAfter body)) (g'.followed (lineAfter body)) := by
  induction steps with
  | refl => exact .refl
  | tail _ step ih => exact ih.tail (step.followed body)

/-- What a line comment that begins a line is passed over as. -/
def lineComment (pos : Nat) (body : List Char) : PassedComment :=
  ⟨⟨⟨pos, pos + 2 + body.length⟩, false, String.ofList body⟩, true, false⟩

/-- A line comment behind the end of a text comes after the end of a line. -/
lemma step_lineAfter (ends : g.cursor.rest = []) (body : List Char) :
    Step (g.followed (lineAfter body))
      { g with cursor := ⟨'/' :: '/' :: body, g.cursor.pos + 1⟩, lineBreak := true } := by
  have rest : (g.followed (lineAfter body)).cursor.rest = '\n' :: '/' :: '/' :: body :=
    congrArg (· ++ lineAfter body) ends
  have step := Step.lineEnd rest rfl
  rw [Cursor.advance, rest] at step
  exact step

/-- A comment on one line behind the end of a text is passed over up to the new end. -/
lemma steps_lineAfter {body : List Char} (ends : g.cursor.rest = [])
    (oneLine : ∀ c ∈ body, isLineEnd c = false) :
    Steps (g.followed (lineAfter body))
      { g with
        cursor := ⟨[], g.cursor.pos + 1 + 2 + body.length⟩
        lineBreak := true
        comments := g.comments ++ [lineComment (g.cursor.pos + 1) body] } := by
  refine .tail (.tail .refl (step_lineAfter ends body)) ?_
  have all : ∀ c ∈ body, (!isLineEnd c) = true := fun c mem => by rw [oneLine c mem]; rfl
  have second := Step.line (g := { g with
    cursor := ⟨'/' :: '/' :: body, g.cursor.pos + 1⟩, lineBreak := true }) rfl
  unfold passLine Cursor.span Cursor.advance at second
  dsimp only [List.drop] at second
  rw [List.takeWhile_eq_self_iff.2 all, List.dropWhile_eq_nil_iff.2 all] at second
  exact second

/-- At the end of a text a gap ends. -/
lemma skipGap_of_nil (ends : g.cursor.rest = []) (fuel : Nat) : skipGap fuel g = g.settle := by
  cases fuel with
  | zero => rfl
  | succ fuel =>
    rw [skipGap, ends]

/-- If a gap reaches the end of a text without a fault, and a line comment is put on a line of its
own after that, then this is one more comment of the gap. -/
lemma skipGap_lineAfter {body : List Char} {fuel' : Nat} (ends : (skipGap fuel g).cursor.rest = [])
    (faultless : (skipGap fuel g).faults = []) (oneLine : ∀ c ∈ body, isLineEnd c = false)
    (enough : (g.cursor.rest ++ lineAfter body).length < fuel') :
    (skipGap fuel' (g.followed (lineAfter body))).cursor.rest = [] ∧
    (skipGap fuel' (g.followed (lineAfter body))).faults = [] ∧
    (skipGap fuel' (g.followed (lineAfter body))).comments =
      (skipGap fuel g).comments ++ [lineComment ((skipGap fuel g).cursor.pos + 1) body] := by
  obtain ⟨g', steps, eq⟩ := exists_steps faultless
  rw [eq] at ends faultless ⊢
  have all := (steps.followed body).trans (steps_lineAfter ends oneLine)
  obtain ⟨fuel'', _, skipped⟩ := Steps.skipGap all enough
  rw [skipped, skipGap_of_nil rfl]
  exact ⟨rfl, faultless, rfl⟩

end Gap

/-! ## The end of a text -/

namespace Comments

/-- Adds a comment at the end of a text: behind the last token, or at the position where a text
without tokens begins. -/
def addLast (c : Comments) (previous : Option Token) (pos : Nat) (x : Comment) : Comments :=
  if previous.isNone then c.addLeading pos x else c.addTrailing pos x

end Comments

namespace Parser

open Gap

variable {previous : Option Token} {previousEnd : Nat}

/-- A comment that begins a line at the end of a text is attached behind all others. -/
lemma attach_last {found longer : Gap} {x : PassedComment}
    (more : longer.comments = found.comments ++ [x]) (own : x.afterLineBreak = true)
    (comments : Comments) (next next' : Nat) :
    attach comments longer previous previousEnd next' true =
      (attach comments found previous previousEnd next true).addLast previous previousEnd
        x.comment := by
  have leads : trails previous x = false := by
    unfold trails
    cases previous with
    | none => rfl
    | some token => simp [own]
  unfold attach
  rw [more]
  simp only [List.partition_eq_filter_filter, List.filter_append]
  simp [leads, Comments.addLast]

/-- The state once the next token has been read. -/
def loaded (s : State) (c : Cursor) (previous : Option Token) (previousEnd : Nat)
    (lineBreak : Bool) : State :=
  ((load c previous previousEnd lineBreak).run.run s).2

section Loading

variable (s : State) (c : Cursor) (previous : Option Token) (previousEnd : Nat) (lineBreak : Bool)

/-- What stands before the next token. -/
def gapAt : Gap := skipGap (s.size + 1) { cursor := c, lineBreak := lineBreak }

/-- The next token. -/
def tokenAt : Read :=
  readToken (s.size + 1) s.isStrict (gapAt s c lineBreak).lineBreak (gapAt s c lineBreak).cursor

/-- What has been read of a text once the next token has: the gap and the token. -/
lemma loaded_eq :
    loaded s c previous previousEnd lineBreak =
      { s with
        token := (tokenAt s c lineBreak).token
        span := ⟨(gapAt s c lineBreak).tokenStart.getD (gapAt s c lineBreak).cursor.pos,
          (tokenAt s c lineBreak).cursor.pos⟩
        afterLineBreak := (gapAt s c lineBreak).lineBreak
        here := (gapAt s c lineBreak).cursor
        after := (tokenAt s c lineBreak).cursor.rest
        faults := s.faults ++ (gapAt s c lineBreak).faults ++ (tokenAt s c lineBreak).faults
        comments := attach s.comments (gapAt s c lineBreak) previous previousEnd
          (gapAt s c lineBreak).cursor.pos (gapAt s c lineBreak).cursor.rest.isEmpty } := by
  unfold loaded load gapAt
  change ((install _ (tokenAt s c lineBreak) _ >>= fun _ => _).run.run _).2 = _
  cases (skipGap (s.size + 1) { cursor := c, lineBreak := lineBreak }).tokenStart with
  | none => rfl
  | some lo => rfl

variable {s c lineBreak}

/-- A text that ends after a gap ends with the gap. -/
lemma loaded_of_end (ends : (gapAt s c lineBreak).cursor.rest = []) :
    (loaded s c previous previousEnd lineBreak).token = .eof ∧
    (loaded s c previous previousEnd lineBreak).faults =
      s.faults ++ (gapAt s c lineBreak).faults ∧
    (loaded s c previous previousEnd lineBreak).comments =
      attach s.comments (gapAt s c lineBreak) previous previousEnd
        (gapAt s c lineBreak).cursor.pos true := by
  have eof : tokenAt s c lineBreak = ⟨.eof, (gapAt s c lineBreak).cursor, []⟩ := by
    unfold tokenAt readToken
    rw [ends]
  rw [loaded_eq, eof, ends]
  exact ⟨rfl, List.append_nil _, rfl⟩

variable {s' : State} {body : List Char} {previous previousEnd}

/-- If a text ends after a token, and a line comment is put on a line of its own after that, then
the text still ends there, and has one comment more. -/
lemma loaded_lineAfter (ends : (loaded s c previous previousEnd lineBreak).here.rest = [])
    (faultless : (loaded s c previous previousEnd lineBreak).faults = s.faults)
    (oneLine : ∀ ch ∈ body, isLineEnd ch = false)
    (enough : (c.rest ++ lineAfter body).length ≤ s'.size) (comments : s'.comments = s.comments) :
    (loaded s' ⟨c.rest ++ lineAfter body, c.pos⟩ previous previousEnd lineBreak).token = .eof ∧
    (loaded s' ⟨c.rest ++ lineAfter body, c.pos⟩ previous previousEnd lineBreak).faults =
      s'.faults ∧
    (loaded s' ⟨c.rest ++ lineAfter body, c.pos⟩ previous previousEnd lineBreak).comments =
      (loaded s c previous previousEnd lineBreak).comments.addLast previous previousEnd
        (lineComment ((loaded s c previous previousEnd lineBreak).here.pos + 1) body).comment := by
  have here : (loaded s c previous previousEnd lineBreak).here = (gapAt s c lineBreak).cursor := by
    rw [loaded_eq]
  rw [here] at ends ⊢
  obtain ⟨_, faults, attached⟩ := loaded_of_end previous previousEnd ends
  rw [faults, List.append_right_eq_self] at faultless
  obtain ⟨ends', faultless', more⟩ :=
    skipGap_lineAfter ends faultless oneLine (Nat.lt_succ_of_le enough)
  obtain ⟨token', faults', attached'⟩ :=
    loaded_of_end (s := s') (c := ⟨c.rest ++ lineAfter body, c.pos⟩) previous previousEnd ends'
  refine ⟨token', ?_, ?_⟩
  · rw [faults']
    exact (congrArg (s'.faults ++ ·) faultless').trans (List.append_nil _)
  · rw [attached', attached, comments]
    exact attach_last more rfl s.comments _ _

end Loading

end Parser

end ScriptMaps.Syntax
