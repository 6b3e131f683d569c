import ScriptMaps.Proofs.Pipeline.Comments
import ScriptMaps.Proofs.Pipeline.Handling

/-!
# What is put behind the code of a script

If the engine made a map then a line is put behind its code, and nothing otherwise. The line holds a
comment that names the map of the script. It is one line, and adds nothing but a comment to the
code, exactly if no character ends a line in the name of the script without its directory
(`transformFile_trailer`). In any other name what comes after such a character is read as code.
-/

namespace ScriptMaps

open ScriptMaps.Syntax (Comment Comments Cursor Gap State Token skipGap)
open ScriptMaps.Syntax.Gap (Step Steps exists_steps followed lineAfter skipGap_lineAfter)
open ScriptMaps.Syntax.Parser (gapAt loaded loaded_eq loaded_of_end)
open ScriptMaps.FileName (basename mapName)
open ScriptMaps.Text (isInlineBlank isLineEnd)
open ScriptMaps.SourceMap (Document)

/-- The characters that end a line of a script. -/
def lineTerminators : List Char := ['\n', '\r', '\u2028', '\u2029']

/-- No character of a text ends a line. -/
def IsOneLine (text : String) : Prop := ∀ c ∈ text.toList, c ∉ lineTerminators

/-! ## Lines that end early -/

namespace Syntax.Gap

variable {g g' : Gap} {fuel fuel' : Nat} {body : List Char} {c : Char}

/-- A text without its first character still has every other one, and no slash. -/
lemma mem_drop_one {text rest : List Char} {d : Char} (split : text = d :: rest) (other : c ≠ d)
    (noSlash : '/' ∉ text) (mem : c ∈ text) : c ∈ text.drop 1 ∧ '/' ∉ text.drop 1 := by
  subst split
  exact ⟨List.mem_of_ne_of_mem other mem, fun slash => noSlash (List.mem_cons_of_mem d slash)⟩

/-- Where no comment can begin, only what is blank is passed over. -/
lemma Step.mem_rest (step : Step g g') (noSlash : '/' ∉ g.cursor.rest)
    (visible : isLineEnd c = false ∧ isInlineBlank c = false) (mem : c ∈ g.cursor.rest) :
    c ∈ g'.cursor.rest ∧ '/' ∉ g'.cursor.rest := by
  cases step with
  | lineEnd rest ends =>
    refine mem_drop_one rest ?_ noSlash mem
    rintro rfl
    exact nomatch ends.symm.trans visible.1
  | blank rest _ blank =>
    refine mem_drop_one rest ?_ noSlash mem
    rintro rfl
    exact nomatch blank.symm.trans visible.2
  | line rest | block rest _ =>
    rw [rest] at noSlash
    exact absurd List.mem_cons_self noSlash

/-- However many steps are made, only what is blank is passed over. -/
lemma Steps.mem_rest (steps : Steps g g') (noSlash : '/' ∉ g.cursor.rest)
    (visible : isLineEnd c = false ∧ isInlineBlank c = false) (mem : c ∈ g.cursor.rest) :
    c ∈ g'.cursor.rest ∧ '/' ∉ g'.cursor.rest := by
  induction steps with
  | refl => exact ⟨mem, noSlash⟩
  | tail _ step ih => exact step.mem_rest ih.2 visible ih.1

/-- After the end of a text and a line comment behind it comes what is left once the line has ended.
-/
lemma exists_steps_lineAfter (ends : g.cursor.rest = []) (body : List Char) :
    ∃ g', Steps (g.followed (lineAfter body)) g' ∧
      g'.cursor.rest = body.dropWhile (!isLineEnd ·) :=
  ⟨_, .tail (.tail .refl (step_lineAfter ends body)) (.line rfl), rfl⟩

/-- If a gap reaches the end of a text, and also the end of a line comment behind that, then the
comment is one line, if no other comment can begin in it and its last character is not blank. -/
lemma oneLine_of_skipGap (ends : (skipGap fuel g).cursor.rest = [])
    (faultless : (skipGap fuel g).faults = [])
    (ends' : (skipGap fuel' (g.followed (lineAfter (body ++ [c])))).cursor.rest = [])
    (faultless' : (skipGap fuel' (g.followed (lineAfter (body ++ [c])))).faults = [])
    (enough : (g.cursor.rest ++ lineAfter (body ++ [c])).length < fuel')
    (noSlash : '/' ∉ body ++ [c]) (visible : isLineEnd c = false ∧ isInlineBlank c = false) :
    ∀ d ∈ body ++ [c], isLineEnd d = false := by
  by_contra broken
  push Not at broken
  obtain ⟨d, mem, lineEnd⟩ := broken
  obtain ⟨g₁, steps, eq⟩ := exists_steps faultless
  rw [eq] at ends
  obtain ⟨g₂, line, rest⟩ := exists_steps_lineAfter (g := g₁) ends (body ++ [c])
  obtain ⟨fuel'', _, skipped⟩ := Steps.skipGap ((steps.followed _).trans line) enough
  rw [skipped] at ends' faultless'
  obtain ⟨g₃, more, eq'⟩ := exists_steps faultless'
  rw [eq'] at ends'
  -- The line ends before the last character, and from there on no comment can hide it.
  have left : c ∈ g₂.cursor.rest := by
    have inside : d ∈ body := by
      obtain inside | last := List.mem_append.1 mem
      · exact inside
      · rw [List.mem_singleton.1 last] at lineEnd
        exact absurd visible.1 lineEnd
    rw [rest, List.dropWhile_append, if_neg]
    · exact List.mem_append_right _ List.mem_cons_self
    · rw [List.isEmpty_iff, List.dropWhile_eq_nil_iff]
      intro all
      have ended := all d inside
      rw [Bool.eq_true_of_not_eq_false lineEnd] at ended
      cases ended
  have noSlash₂ : '/' ∉ g₂.cursor.rest := by
    rw [rest]
    exact fun slash => noSlash ((List.dropWhile_sublist _).subset slash)
  have found := (more.mem_rest noSlash₂ visible left).1
  change g₃.cursor.rest = [] at ends'
  rw [ends'] at found
  cases found

end Syntax.Gap

/-! ## Names -/

section Names

variable {name : String}

/-- The characters that end a line are the four terminators. -/
lemma isLineEnd_iff (c : Char) : isLineEnd c = true ↔ c ∈ lineTerminators := by
  have separator : c.toNat = 0x2028 ↔ c = '\u2028' := @Char.toNat_inj c '\u2028'
  have paragraph : c.toNat = 0x2029 ↔ c = '\u2029' := @Char.toNat_inj c '\u2029'
  simp only [isLineEnd, lineTerminators, Bool.or_eq_true, beq_iff_eq, separator, paragraph,
    List.mem_cons, List.not_mem_nil, or_false, or_assoc]

/-- A text is one line if no character of it ends a line. -/
lemma isOneLine_iff {text : String} :
    IsOneLine text ↔ ∀ c ∈ text.toList, isLineEnd c = false := by
  simp only [IsOneLine, ← isLineEnd_iff, Bool.not_eq_true]

/-- The reference to a map is written on one line exactly if the name of the script is, without its
directory. -/
lemma isOneLine_referenceText_iff :
    IsOneLine (referenceText name) ↔ IsOneLine (basename name) := by
  constructor
  · intro oneLine c mem
    apply oneLine
    rw [toList_referenceText, mapName, String.toList_append]
    exact List.mem_append_right _ (List.mem_append_left _ mem)
  · intro oneLine
    exact isOneLine_iff.2 (oneLine_referenceText (isOneLine_iff.1 oneLine))

/-- No comment can begin in the reference to a map, and its last character is not blank. -/
lemma exists_referenceText (name : String) :
    ∃ body, (referenceText name).toList = body ++ ['p'] ∧ '/' ∉ body ++ ['p'] := by
  have text : (referenceText name).toList =
      "# sourceMappingURL=".toList ++ ((basename name).toList ++ ".map".toList) := by
    rw [toList_referenceText, mapName, String.toList_append]
    rfl
  refine ⟨"# sourceMappingURL=".toList ++ ((basename name).toList ++ ".ma".toList), ?_, ?_⟩
  · rw [text]
    simp
  · rw [List.append_assoc, List.append_assoc]
    intro slash
    rcases List.mem_append.1 slash with before | slash
    · revert before
      decide
    rcases List.mem_append.1 slash with inside | behind
    · have noSeparator := FileName.not_isSeparator_of_mem_basename inside
      cases noSeparator
    · revert behind
      decide

end Names

/-! ## The end of a text -/

/-- From a cursor after a token, a text is read to its end without a fault: all that is left is
blanks and comments. -/
structure EndsAfter (s : State) (c : Cursor) (previous : Option Token) (previousEnd : Nat)
    (lineBreak : Bool) : Prop where
  ends : (loaded s c previous previousEnd lineBreak).here.rest = []
  faultless : (loaded s c previous previousEnd lineBreak).faults = s.faults

/-- A cursor in a text with another text behind it. -/
def Syntax.Cursor.before (c : Cursor) (tail : String) : Cursor := ⟨c.rest ++ tail.toList, c.pos⟩

/-- A parser that has read a text to its end, and one that is at the same place of the text with
another behind it. -/
structure Extends (s s' : State) (c : Cursor) (previous : Option Token) (previousEnd : Nat)
    (lineBreak : Bool) (tail : String) : Prop where
  ended : EndsAfter s c previous previousEnd lineBreak
  enough : (c.before tail).rest.length ≤ s'.size
  comments : s'.comments = s.comments

/-- What is behind a text is read as one more comment of the text, which a pipeline does not print.
-/
structure AddsComment (s s' : State) (c : Cursor) (previous : Option Token) (previousEnd : Nat)
    (lineBreak : Bool) (tail comment : String) : Prop where
  ended : EndsAfter s' (c.before tail) previous previousEnd lineBreak
  eof : (loaded s' (c.before tail) previous previousEnd lineBreak).token = .eof
  more : ∃ x : Comment, x.text = comment ∧
    (loaded s' (c.before tail) previous previousEnd lineBreak).comments =
      (loaded s c previous previousEnd lineBreak).comments.addLast previous previousEnd x
  unprinted : ∀ options : TransformOptions, options.commentFilter = some .mapReferences →
    printedComments options (loaded s' (c.before tail) previous previousEnd lineBreak).comments =
      printedComments options (loaded s c previous previousEnd lineBreak).comments

section Reading

variable {s s' : State} {c : Cursor} {previous : Option Token} {previousEnd : Nat}
variable {lineBreak : Bool} {name : String}

/-- A text ends after a cursor if the gap there reaches the end without a fault. -/
lemma endsAfter_iff : EndsAfter s c previous previousEnd lineBreak ↔
    (gapAt s c lineBreak).cursor.rest = [] ∧ (gapAt s c lineBreak).faults = [] := by
  have here : (loaded s c previous previousEnd lineBreak).here = (gapAt s c lineBreak).cursor := by
    rw [loaded_eq]
  constructor
  · rintro ⟨ends, faultless⟩
    rw [here] at ends
    rw [(loaded_of_end previous previousEnd ends).2.1, List.append_right_eq_self] at faultless
    exact ⟨ends, faultless⟩
  · rintro ⟨ends, faultless⟩
    refine ⟨here ▸ ends, ?_⟩
    rw [(loaded_of_end previous previousEnd ends).2.1, faultless, List.append_nil]

/-- If a reference to a map is put behind a text then the text still ends where it did exactly if
the reference is one line. -/
lemma Extends.endsAfter_iff
    (h : Extends s s' c previous previousEnd lineBreak (mapReference name)) :
    EndsAfter s' (c.before (mapReference name)) previous previousEnd lineBreak ↔
      IsOneLine (basename name) := by
  obtain ⟨ended, enough, _⟩ := h
  obtain ⟨ends, faultless⟩ := ScriptMaps.endsAfter_iff.1 ended
  rw [ScriptMaps.endsAfter_iff, ← isOneLine_referenceText_iff, isOneLine_iff]
  unfold Cursor.before at enough ⊢
  rw [toList_mapReference] at enough ⊢
  constructor
  · rintro ⟨ends', faultless'⟩
    obtain ⟨body, split, noSlash⟩ := exists_referenceText name
    rw [split] at enough ends' faultless' ⊢
    exact Gap.oneLine_of_skipGap ends faultless ends' faultless' (Nat.lt_succ_of_le enough) noSlash
      ⟨rfl, rfl⟩
  · intro oneLine
    obtain ⟨ends', faultless', _⟩ :=
      skipGap_lineAfter ends faultless oneLine (Nat.lt_succ_of_le enough)
    exact ⟨ends', faultless'⟩

/-- A reference to a map adds nothing but a comment to a text exactly if it is one line. -/
lemma Extends.addsComment_iff
    (h : Extends s s' c previous previousEnd lineBreak (mapReference name)) :
    AddsComment s s' c previous previousEnd lineBreak (mapReference name) (referenceText name) ↔
      IsOneLine (basename name) := by
  refine ⟨fun adds => h.endsAfter_iff.1 adds.ended, fun oneLine => ?_⟩
  obtain ⟨token, _, x, text, more⟩ := loaded_mapReference (isOneLine_iff.1 oneLine) h.ended.ends
    h.ended.faultless h.enough h.comments
  have reference : IsReference x.text := text ▸ isReference_referenceText name
  refine ⟨h.endsAfter_iff.2 oneLine, token, ⟨x, text, more⟩, fun options filter => ?_⟩
  exact (congrArg (printedComments options) more).trans
    (printedComments_addLast filter reference _ _ _)

end Reading

/-! ## Scripts -/

/-- A script that is transformed comes first among its results, with what the engine made of it. -/
lemma exists_output {σ : Type} {p : Pipeline (StateM σ)} {file : OutputFile}
    {batch out : List OutputFile} {s s' : σ}
    (h : (p.transformFile file batch).run.run s = (.ok out, s')) :
    ∃ found output others, parsedMap file batch = .ok found ∧
      (p.engine file.text (p.optionsFor file found)).run.run s = (.ok output, s') ∧
      out = file.withText (scriptText file.name output) :: others := by
  unfold Pipeline.transformFile at h
  cases parsed : parsedMap file batch with
  | error fault =>
    rw [parsed] at h
    cases h
  | ok found =>
    rw [parsed] at h
    change ((p.engine file.text (p.optionsFor file found)).adapt (PipelineFault.transform file.name)
      >>= fun output => pure (resultFiles file (found.map (·.1)) output)).run.run s = _ at h
    rcases asked : (p.engine file.text (p.optionsFor file found)).run.run s with ⟨answer, s₁⟩
    cases answer with
    | error cause =>
      rw [run_bind_error (run_adapt asked _)] at h
      cases h
    | ok output =>
      rw [run_bind_ok (run_adapt asked _)] at h
      obtain ⟨result, rfl⟩ := Prod.mk.inj h
      obtain rfl := Except.ok.inj result
      have first : ∃ others, resultFiles file (found.map (·.1)) output =
          file.withText (scriptText file.name output) :: others := by
        unfold resultFiles
        split
        case h_1 => exact ⟨_, rfl⟩
        case h_2 => exact ⟨_, rfl⟩
      obtain ⟨others, first⟩ := first
      exact ⟨found, output, others, rfl, asked, first⟩

/-- The filter rejects every reference to a map. -/
lemma rejects_of_isReference {text : String} (reference : IsReference text) :
    CommentFilter.mapReferences.rejects text = true :=
  (CommentFilter.isMapReference_iff text).2 reference

/-- What is put behind the code of a script with a map is a line comment on a line of its own. -/
lemma lineAfter_referenceText (name : String) :
    "\n//" ++ referenceText name = mapReference name := by
  apply String.toList_injective
  rw [toList_mapReference, String.toList_append]
  rfl

/-- Behind code with a map there is a reference to it. -/
lemma scriptText_of_map {name : String} {output : TransformOutput} (made : output.map.isSome) :
    scriptText name output = output.code ++ mapReference name := if_pos made

/-- Behind code without a map there is nothing. -/
lemma scriptText_of_no_map {name : String} {output : TransformOutput} (none : output.map = none) :
    scriptText name output = output.code := if_neg (by simp [none])

/-- If the engine made a map of a script then a line break and a line comment are put behind its
code, and otherwise nothing is. The comment is one that a pipeline does not print. It is one line
exactly if the name of the script is, without its directory; and behind whatever text, exactly then
the text ends where it did and has got nothing but one more comment, as a whole the one that is not
printed.
-/
theorem transformFile_trailer {σ : Type} {p : Pipeline (StateM σ)} {file : OutputFile}
    {batch out : List OutputFile} {s s' : σ}
    (h : (p.transformFile file batch).run.run s = (.ok out, s')) :
    ∃ found output script others, parsedMap file batch = .ok found ∧
      (p.engine file.text (p.optionsFor file found)).run.run s = (.ok output, s') ∧
      out = script :: others ∧ script.name = file.name ∧
      (output.map = none → script.text = output.code) ∧
      (output.map.isSome → ∃ comment trailer, trailer = "\n//" ++ comment ∧
        script.text = output.code ++ trailer ∧
        comment = "# sourceMappingURL=" ++ mapName (basename file.name) ∧
        CommentFilter.mapReferences.rejects comment = true ∧
        (IsOneLine comment ↔ IsOneLine (basename file.name)) ∧
        ∀ (st st' : State) (c : Cursor) (previous : Option Token) (previousEnd : Nat)
          (lineBreak : Bool), Extends st st' c previous previousEnd lineBreak trailer →
          (EndsAfter st' (c.before trailer) previous previousEnd lineBreak ↔
            IsOneLine (basename file.name)) ∧
          (AddsComment st st' c previous previousEnd lineBreak trailer comment ↔
            IsOneLine (basename file.name))) := by
  obtain ⟨found, output, others, parsed, asked, rfl⟩ := exists_output h
  refine ⟨found, output, file.withText (scriptText file.name output), others, parsed, asked, rfl,
    rfl, fun noMap => scriptText_of_no_map noMap, fun made => ?_⟩
  refine ⟨referenceText file.name, mapReference file.name, (lineAfter_referenceText _).symm,
    scriptText_of_map made, rfl, ?_, isOneLine_referenceText_iff, ?_⟩
  · exact rejects_of_isReference (isReference_referenceText file.name)
  · intro st st' c previous previousEnd lineBreak extended
    exact ⟨extended.endsAfter_iff, extended.addsComment_iff⟩

/-- A line break in the name of a directory does no harm: what is put behind the code adds a comment
to it. -/
theorem transformFile_trailer_directory :
    let p : Pipeline (StateM Nat) := .new (scriptEngine []) {}
    let file : OutputFile := ⟨"out\n/a.js", "f()", false⟩
    let batch : List OutputFile :=
      [file, ⟨"out\n/a.js.map", Document.toJson { sources := ["a.ts"] }, false⟩]
    let code := "f();\n"
    let comment := "# sourceMappingURL=a.js.map"
    let trailer := "\n//" ++ comment
    let st : State := Syntax.Parser.initial false code.toList
    let st' : State := Syntax.Parser.initial false (code ++ trailer).toList
    let c : Cursor := ⟨"\n".toList, 4⟩
    (∃ script others s', (p.transformFile file batch).run.run 0 = (.ok (script :: others), s') ∧
      script.text = code ++ trailer) ∧
    Extends st st' c (some (.mark .semicolon)) 4 false trailer ∧
    AddsComment st st' c (some (.mark .semicolon)) 4 false trailer comment := by
  intro p file batch code comment trailer st st' c
  have succeeds : ((p.transformFile file batch).run.run 0).1.toBool = true := by decide +kernel
  have printed : (parsedMap file batch).map (fun found =>
      (transformScript [] file.text (p.optionsFor file found)).map
        fun o => (o.code, o.map.isSome)) =
      .ok (.ok (code, true)) := by
    decide +kernel
  obtain ⟨out, s', run⟩ := Except.exists_eq_ok_mk succeeds
  obtain ⟨found, output, script, others, parsed, asked, rfl, _, _, trails⟩ :=
    transformFile_trailer run
  rw [parsed] at printed
  obtain ⟨output', transformed, same⟩ := Except.map_eq_ok.1 (Except.ok.inj printed)
  obtain rfl : output' = output :=
    Except.ok.inj (transformed.symm.trans (congrArg Prod.fst asked))
  obtain ⟨codeEq, made⟩ := Prod.mk.inj same
  obtain ⟨_, _, rfl, text, rfl, _, _, adds⟩ := trails made
  have spelled : "# sourceMappingURL=" ++ mapName (basename file.name) = comment := by
    decide +kernel
  rw [codeEq, spelled] at text
  rw [spelled] at adds
  have extended : Extends st st' c (some (.mark .semicolon)) 4 false trailer :=
    ⟨⟨by decide +kernel, by decide +kernel⟩, by decide +kernel, rfl⟩
  have oneLine : IsOneLine (basename file.name) :=
    isOneLine_iff.2 (isLineEnd_eq_false_of_any (by decide +kernel))
  exact ⟨⟨script, others, s', run, text⟩, extended, (adds _ _ _ _ _ _ extended).2.2 oneLine⟩

/-- A script whose first result is known has been transformed, with some more results. -/
lemma exists_others {σ : Type} {p : Pipeline (StateM σ)} {file first : OutputFile}
    {batch : List OutputFile} {s : σ}
    (h : ((p.transformFile file batch).run.run s).1.map List.head? = .ok (some first)) :
    ∃ others s', (p.transformFile file batch).run.run s = (.ok (first :: others), s') := by
  rcases run : (p.transformFile file batch).run.run s with ⟨result, s'⟩
  rw [run] at h
  obtain ⟨files, rfl, head⟩ := Except.map_eq_ok.1 h
  obtain ⟨others, rfl⟩ := List.head?_eq_some_iff.1 head
  exact ⟨others, s', rfl⟩

/-- If the name of a script holds a line break then the comment that names its map ends there, and
what comes after it is code: it is read as two more statements, which the next pass prints. -/
theorem exists_name_read_as_code :
    let p : Pipeline (StateM Nat) := .new (scriptEngine []) {}
    let name := "a\nalert(1);b.js"
    let map : OutputFile :=
      ⟨"a\nalert(1);b.js.map", Document.toJson { sources := ["a.ts"] }, false⟩
    let code := "f();\n"
    let comment := "# sourceMappingURL=a\nalert(1);b.js.map"
    let trailer := "\n//" ++ comment
    let again := "f();\nalert(1);\nb.js.map;\n"
    FileName.kind name = .script ∧ ¬ IsOneLine comment ∧
    (∃ others s', (p.transformFile ⟨name, "f();", false⟩ [map]).run.run 0 =
      (.ok (⟨name, code ++ trailer, false⟩ :: others), s')) ∧
    (∃ m m' comments comments', parseScript name code = .ok (m, comments) ∧ m.items.length = 1 ∧
      parseScript name (code ++ trailer) = .ok (m', comments') ∧ m'.items.length = 3) ∧
    ∃ others s', (p.transformFile ⟨name, code ++ trailer, false⟩ [map]).run.run 0 =
      (.ok (⟨name, again ++ trailer, false⟩ :: others), s') := by
  intro p name map code comment trailer again
  have broken : ¬ IsOneLine comment := by
    intro oneLine
    exact oneLine '\n' (by decide +kernel) (by decide)
  have before : (parseScript name code).map (·.1.items.length) = .ok 1 := by decide +kernel
  have behind : (parseScript name (code ++ trailer)).map (·.1.items.length) = .ok 3 := by
    decide +kernel
  obtain ⟨⟨m, comments⟩, parsed, one⟩ := Except.map_eq_ok.1 before
  obtain ⟨⟨m', comments'⟩, parsed', three⟩ := Except.map_eq_ok.1 behind
  exact ⟨by decide +kernel, broken, exists_others (by decide +kernel),
    ⟨m, m', comments, comments', parsed, one, parsed', three⟩, exists_others (by decide +kernel)⟩

end ScriptMaps
