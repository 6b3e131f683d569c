import ScriptMaps.Proofs.Except
import ScriptMaps.Proofs.Files.Naming
import ScriptMaps.Proofs.Syntax.Gaps
import ScriptMaps.Pipeline.Basic

/-!
# Comments that are printed

The printer is handed the comments of a text that the options admit, each at its place, and nothing
else of a script's comments has a way into its code. In a pipeline the options admit all comments
but those that refer to a map (`isMapReference_iff`). What an earlier pass wrote behind its code is
read as such a comment (`loaded_mapReference`), so it is never printed a second time.
-/

namespace ScriptMaps

open ScriptMaps.Syntax (Module Comment Comments Cursor State Token)
open ScriptMaps.Syntax.Gap (lineAfter)
open ScriptMaps.Syntax.Parser (loaded)
open ScriptMaps.FileName (mapName basename)

/-! ## The texts that are rejected -/

/-- The characters with the Unicode property `White_Space`. -/
def whiteSpace : List Nat :=
  [0x9, 0xa, 0xb, 0xc, 0xd, 0x20, 0x85, 0xa0, 0x1680, 0x2000, 0x2001, 0x2002, 0x2003, 0x2004,
    0x2005, 0x2006, 0x2007, 0x2008, 0x2009, 0x200a, 0x2028, 0x2029, 0x202f, 0x205f, 0x3000]

/-- The texts that refer to a map: a sign and a word, with white space before each, and then
anything. -/
def IsReference (text : String) : Prop :=
  ∃ before sign after rest,
    text.toList = before ++ sign :: (after ++ "sourceMappingURL=".toList ++ rest) ∧
    (∀ c ∈ before, c.toNat ∈ whiteSpace) ∧ (sign = '#' ∨ sign = '@') ∧
    ∀ c ∈ after, c.toNat ∈ whiteSpace

/-- The characters that count as white space are the listed ones. -/
lemma isWhiteSpace_iff (c : Char) : Text.isWhiteSpace c = true ↔ c.toNat ∈ whiteSpace := by
  simp only [Text.isWhiteSpace, whiteSpace, Bool.or_eq_true, Bool.and_eq_true, decide_eq_true_eq,
    beq_iff_eq, List.mem_cons, List.not_mem_nil, or_false]
  omega

namespace CommentFilter

/-- White space is skipped up to what is none. -/
lemma skipBlanks_append {blanks rest : List Char} {c : Char}
    (blank : ∀ c ∈ blanks, c.toNat ∈ whiteSpace) (visible : Text.isWhiteSpace c = false) :
    skipBlanks (blanks ++ c :: rest) = c :: rest := by
  unfold skipBlanks
  rw [List.dropWhile_append_of_pos fun c mem => (isWhiteSpace_iff c).2 (blank c mem),
    List.dropWhile_cons_of_neg (by rw [visible]; exact Bool.false_ne_true)]

/-- A text is white space and what is left if that is skipped. -/
lemma exists_blanks (text : List Char) :
    ∃ blanks, text = blanks ++ skipBlanks text ∧ ∀ c ∈ blanks, c.toNat ∈ whiteSpace := by
  refine ⟨text.takeWhile Text.isWhiteSpace, List.takeWhile_append_dropWhile.symm, ?_⟩
  intro c mem
  exact (isWhiteSpace_iff c).1 (List.mem_takeWhile_imp mem)

/-- The filter rejects the texts that refer to a map. -/
lemma isMapReference_iff (text : String) : isMapReference text = true ↔ IsReference text := by
  constructor
  · intro rejected
    -- Blanks are skipped twice, before the sign and after it.
    obtain ⟨before, split, blankBefore⟩ := exists_blanks text.toList
    unfold isMapReference at rejected
    cases visible : skipBlanks text.toList with
    | nil =>
      rw [visible] at rejected
      cases rejected
    | cons sign tail =>
      rw [visible] at rejected split
      obtain ⟨isSign, word⟩ := Bool.and_eq_true_iff.1 rejected
      obtain ⟨after, split', blankAfter⟩ := exists_blanks tail
      obtain ⟨rest, word⟩ := List.isPrefixOf_iff_prefix.1 word
      refine ⟨before, sign, after, rest, ?_, blankBefore, ?_, blankAfter⟩
      · rw [split, List.append_assoc]
        exact congrArg (before ++ sign :: ·) (split'.trans (congrArg (after ++ ·) word.symm))
      · simpa using isSign
  · rintro ⟨before, sign, after, rest, spelled, blankBefore, isSign, blankAfter⟩
    have visible : Text.isWhiteSpace sign = false := by
      rcases isSign with rfl | rfl
      · rfl
      · rfl
    have word : skipBlanks (after ++ ("sourceMappingURL=".toList ++ rest)) =
        "sourceMappingURL=".toList ++ rest := skipBlanks_append blankAfter rfl
    have matched : referenceWord.isPrefixOf ("sourceMappingURL=".toList ++ rest) = true :=
      List.isPrefixOf_iff_prefix.2 (List.prefix_append _ rest)
    unfold isMapReference
    rw [spelled, skipBlanks_append blankBefore visible, List.append_assoc]
    dsimp only
    rw [word, matched, Bool.and_true]
    rcases isSign with rfl | rfl
    · rfl
    · rfl

end CommentFilter

/-! ## The comments that are handed to the printer -/

namespace Syntax.Comments

/-- Filtering comments filters those at each position. -/
lemma under_filter (entries : List (Nat × Comment)) (admits : String → Bool) (pos : Nat) :
    under (entries.filter fun e => admits e.2.text) pos =
      (under entries pos).filter fun c => admits c.text := by
  unfold under
  rw [List.filter_map, List.filter_filter, List.filter_filter]
  simp only [Function.comp_def, Bool.and_comm]

/-- Of the leading comments at a position the admitted ones are retained. -/
@[simp] lemma leadingAt_retain (c : Comments) (admits : String → Bool) (pos : Nat) :
    (c.retain admits).leadingAt pos = (c.leadingAt pos).filter fun x => admits x.text :=
  under_filter c.leading admits pos

/-- Of the trailing comments at a position the admitted ones are retained. -/
@[simp] lemma trailingAt_retain (c : Comments) (admits : String → Bool) (pos : Nat) :
    (c.retain admits).trailingAt pos = (c.trailingAt pos).filter fun x => admits x.text :=
  under_filter c.trailing admits pos

/-- A comment that is not retained may as well be missing. -/
lemma retain_addLast {admits : String → Bool} {x : Comment} (rejected : admits x.text = false)
    (c : Comments) (previous : Option Token) (pos : Nat) :
    (c.addLast previous pos x).retain admits = c.retain admits := by
  unfold addLast
  cases previous with
  | none => simp [retain, addLeading, rejected]
  | some token => simp [retain, addTrailing, rejected]

end Syntax.Comments

section Store

variable {options : TransformOptions}

/-- The printer is handed what is admitted of the comments at each position, in their order. -/
lemma printedComments_at (options : TransformOptions) (comments : Comments) (pos : Nat) :
    (printedComments options comments).leadingAt pos =
      (comments.leadingAt pos).filter (options.printsComment ·.text) ∧
    (printedComments options comments).trailingAt pos =
      (comments.trailingAt pos).filter (options.printsComment ·.text) := by
  unfold printedComments
  split
  case isTrue => exact ⟨comments.leadingAt_retain _ pos, comments.trailingAt_retain _ pos⟩
  case isFalse off =>
    have nothing (c : Comment) : ¬ options.printsComment c.text = true := by
      simp [TransformOptions.printsComment, off]
    rw [List.filter_eq_nil_iff.2 fun c _ => nothing c,
      List.filter_eq_nil_iff.2 fun c _ => nothing c]
    exact ⟨rfl, rfl⟩

/-- Options that reject references to maps print no such comment. -/
lemma not_printsComment (filter : options.commentFilter = some .mapReferences) {text : String}
    (reference : IsReference text) : options.printsComment text = false := by
  unfold TransformOptions.printsComment
  rw [filter]
  have rejected := (CommentFilter.isMapReference_iff text).2 reference
  change (options.comments && !CommentFilter.isMapReference text) = false
  rw [rejected]
  exact Bool.and_false _

/-- What becomes of a script once it has been printed. -/
def outputOf (options : TransformOptions) (text : String) (module : Module) (laid : Print.Layout) :
    Except EngineFault TransformOutput := do
  let sourceName := options.sourceFileName.getD (options.filename.getD "unknown.js")
  let map ←
    if options.sourceMaps then
      some <$> scriptMap options
        (.ofMarks sourceName (withoutByteOrderMark text) laid.marks.reverse)
    else pure none
  return ⟨laid.code, map, if options.ast then some module else none⟩

/-- A script that can be parsed is printed and given to what comes after that. -/
lemma transformScript_of_parsed {plugins : List Plugin} {text : String} {module : Module}
    {comments : Comments}
    (parsed : parseScript (options.filename.getD "unknown.js") text = .ok (module, comments)) :
    transformScript plugins text options =
      outputOf options text (Plugin.runAll plugins module)
        (Print.render options.compact (printedComments options comments)
          (Plugin.runAll plugins module)) := by
  unfold transformScript
  dsimp only
  rw [parsed]
  rfl

end Store

/-! ## References that were written -/

/-- What the comment at the end of a transformed script says. -/
def referenceText (name : String) : String := "# sourceMappingURL=" ++ mapName (basename name)

/-- The characters of a reference are a fixed beginning and the name of the map. -/
lemma toList_referenceText (name : String) :
    (referenceText name).toList =
      "# sourceMappingURL=".toList ++ (mapName (basename name)).toList :=
  String.toList_append

/-- What is written as a reference refers to a map. -/
lemma isReference_referenceText (name : String) : IsReference (referenceText name) :=
  ⟨[], '#', [' '], (mapName (basename name)).toList, toList_referenceText name, nofun, .inl rfl,
    List.forall_mem_singleton.2 (by decide)⟩

/-- A reference stands on a line of its own, in a line comment. -/
lemma toList_mapReference (name : String) :
    (mapReference name).toList = lineAfter (referenceText name).toList :=
  calc (mapReference name).toList
    _ = "\n//# sourceMappingURL=".toList ++ (mapName (basename name)).toList :=
      String.toList_append
    _ = lineAfter ("# sourceMappingURL=".toList ++ (mapName (basename name)).toList) := rfl
    _ = lineAfter (referenceText name).toList := congrArg lineAfter (toList_referenceText name).symm

/-- If it is computed that no character of a text ends a line then none does. -/
lemma isLineEnd_eq_false_of_any {text : List Char} (h : text.any Text.isLineEnd = false) :
    ∀ c ∈ text, Text.isLineEnd c = false :=
  fun c mem => Bool.eq_false_of_not_eq_true (List.any_eq_false.1 h c mem)

/-- If a name without its directory is written on one line then so is the reference to its map. -/
lemma oneLine_referenceText {name : String}
    (oneLine : ∀ c ∈ (basename name).toList, Text.isLineEnd c = false) :
    ∀ c ∈ (referenceText name).toList, Text.isLineEnd c = false := by
  have before : ∀ c ∈ "# sourceMappingURL=".toList, Text.isLineEnd c = false :=
    isLineEnd_eq_false_of_any (by decide)
  have behind : ∀ c ∈ FileName.mapSuffix.toList, Text.isLineEnd c = false :=
    isLineEnd_eq_false_of_any (by decide)
  intro c mem
  rw [toList_referenceText, mapName, String.toList_append] at mem
  rcases List.mem_append.1 mem with mem | mem
  · exact before c mem
  rcases List.mem_append.1 mem with mem | mem
  · exact oneLine c mem
  · exact behind c mem

/-- If a text ends after a token, and a reference to a map is put behind it, then the text still
ends there, and the reference is read as one more comment. -/
lemma loaded_mapReference {s s' : State} {c : Cursor} {previous : Option Token} {previousEnd : Nat}
    {lineBreak : Bool} {name : String}
    (oneLine : ∀ ch ∈ (basename name).toList, Text.isLineEnd ch = false)
    (ends : (loaded s c previous previousEnd lineBreak).here.rest = [])
    (faultless : (loaded s c previous previousEnd lineBreak).faults = s.faults)
    (enough : (c.rest ++ (mapReference name).toList).length ≤ s'.size)
    (comments : s'.comments = s.comments) :
    let again := loaded s' ⟨c.rest ++ (mapReference name).toList, c.pos⟩ previous previousEnd
      lineBreak
    again.token = .eof ∧ again.faults = s'.faults ∧
    ∃ x : Comment, x.text = referenceText name ∧
      again.comments =
        (loaded s c previous previousEnd lineBreak).comments.addLast previous previousEnd x := by
  rw [toList_mapReference] at enough ⊢
  obtain ⟨token, faults, more⟩ :=
    Syntax.Parser.loaded_lineAfter ends faultless (oneLine_referenceText oneLine) enough comments
  exact ⟨token, faults, _, String.ofList_toList, more⟩

/-- A reference to a map is not among the comments to be printed. -/
lemma printedComments_addLast {options : TransformOptions}
    (filter : options.commentFilter = some .mapReferences) {x : Comment}
    (reference : IsReference x.text) (comments : Comments) (previous : Option Token) (pos : Nat) :
    printedComments options (comments.addLast previous pos x) =
      printedComments options comments := by
  unfold printedComments
  rw [Comments.retain_addLast (not_printsComment filter reference)]

/-- The printer is handed the comments of a script that are admitted, at their positions and in
their order, and none if comments are off. A pipeline has the options reject exactly the comments
that refer to a map, and so none of these gets to the printer: neither one of the input, nor the one
that an earlier pass put behind its code, which is read as one more comment at the end of the text.
-/
theorem transformScript_comments :
    (∀ (plugins : List Plugin) (text : String) (options : TransformOptions) (module : Module)
        (comments : Comments),
      parseScript (options.filename.getD "unknown.js") text = .ok (module, comments) →
      ∃ store : Comments,
        transformScript plugins text options =
          outputOf options text (Plugin.runAll plugins module)
            (Print.render options.compact store (Plugin.runAll plugins module)) ∧
        (options.comments = false → store = {}) ∧
        (∀ pos,
          store.leadingAt pos = (comments.leadingAt pos).filter (options.printsComment ·.text) ∧
          store.trailingAt pos = (comments.trailingAt pos).filter (options.printsComment ·.text)) ∧
        (options.commentFilter = some .mapReferences →
          ∀ pos, ∀ c ∈ store.leadingAt pos ++ store.trailingAt pos, ¬ IsReference c.text)) ∧
    (∀ {m : Type → Type} (engine : Engine m) (baseline : TransformOptions) (file : OutputFile)
        (map : Option SourceMap.Document),
      let options := fileOptions (Pipeline.new engine baseline).options file map
      options.comments = baseline.comments ∧ options.commentFilter = some .mapReferences) ∧
    (∀ text, CommentFilter.mapReferences.rejects text = true ↔ IsReference text) ∧
    (∀ name, (∀ ch ∈ name.toList, Text.isLineEnd ch = false) →
      ∀ (s s' : State) (c : Cursor) (previous : Option Token) (previousEnd : Nat)
        (lineBreak : Bool),
      let ended := loaded s c previous previousEnd lineBreak
      let again := loaded s' ⟨c.rest ++ (mapReference name).toList, c.pos⟩ previous previousEnd
        lineBreak
      ended.here.rest = [] → ended.faults = s.faults →
      (c.rest ++ (mapReference name).toList).length ≤ s'.size → s'.comments = s.comments →
      again.token = .eof ∧ again.faults = s'.faults ∧
      (∃ x : Comment, x.text = referenceText name ∧ IsReference x.text ∧
        again.comments = ended.comments.addLast previous previousEnd x) ∧
      ∀ options : TransformOptions, options.commentFilter = some .mapReferences →
        printedComments options again.comments = printedComments options ended.comments) := by
  refine ⟨?store, fun _ _ _ _ => ⟨rfl, rfl⟩, CommentFilter.isMapReference_iff, ?trailer⟩
  case store =>
    intro plugins text options module comments parsed
    refine ⟨_, transformScript_of_parsed parsed, ?_, printedComments_at options comments, ?_⟩
    · intro off
      unfold printedComments
      rw [off]
      rfl
    · intro filter pos c mem reference
      obtain ⟨leading, trailing⟩ := printedComments_at options comments pos
      rw [leading, trailing, ← List.filter_append] at mem
      have printed := (List.mem_filter.1 mem).2
      rw [not_printsComment filter reference] at printed
      cases printed
  case trailer =>
    intro name oneLine s s' c previous previousEnd lineBreak ended again ends faultless enough same
    have lastOneLine : ∀ ch ∈ (basename name).toList, Text.isLineEnd ch = false :=
      fun ch mem => oneLine ch (FileName.mem_of_mem_basename mem)
    obtain ⟨token, faults, x, text, more⟩ :=
      loaded_mapReference lastOneLine ends faultless enough same
    have reference : IsReference x.text := text ▸ isReference_referenceText name
    refine ⟨token, faults, ⟨x, text, reference, more⟩, ?_⟩
    intro options filter
    exact (congrArg (printedComments options) more).trans
      (printedComments_addLast filter reference _ _ _)

/-- A script with comments of each kind at each kind of position, and the trailer of a script. -/
theorem transformScript_comments_trailer :
    let text := "// kept\nf(/* # sourceMappingURL=x */); //@ sourceMappingURL=y\ng(); // too\n" ++
      "//# sourceMappingURL=a.js.map"
    let options := fileOptions (Pipeline.new (m := Id) (scriptEngine []) {}).options
      ⟨"a.js", text, false⟩ none
    let s : State := Syntax.Parser.initial false "f()\n".toList
    let s' : State := Syntax.Parser.initial false ("f()\n" ++ mapReference "a.js").toList
    let c : Cursor := ⟨"\n".toList, 4⟩
    let ended := loaded s c (some (.mark .parenClose)) 4 false
    let again := loaded s' ⟨c.rest ++ (mapReference "a.js").toList, c.pos⟩
      (some (.mark .parenClose)) 4 false
    (∃ module comments store,
      parseScript "a.js" text = .ok (module, comments) ∧
      (comments.leading ++ comments.trailing).map (·.2.text) =
        [" kept", " # sourceMappingURL=x ", "@ sourceMappingURL=y", " too",
          "# sourceMappingURL=a.js.map"] ∧
      transformScript Plugin.builtin text options =
        outputOf options text (Plugin.runAll Plugin.builtin module)
          (Print.render options.compact store (Plugin.runAll Plugin.builtin module)) ∧
      ∀ pos, ∀ c ∈ store.leadingAt pos ++ store.trailingAt pos, ¬ IsReference c.text) ∧
    ended.here.rest = [] ∧ ended.faults = s.faults ∧
    (c.rest ++ (mapReference "a.js").toList).length ≤ s'.size ∧ s'.comments = s.comments ∧
    again.token = .eof ∧
    printedComments options again.comments = printedComments options ended.comments := by
  intro text options s s' c ended again
  obtain ⟨stored, filtered, _, trailer⟩ := transformScript_comments
  have found : (parseScript "a.js" text).map
      (fun r => (r.2.leading ++ r.2.trailing).map (·.2.text)) =
      .ok [" kept", " # sourceMappingURL=x ", "@ sourceMappingURL=y", " too",
        "# sourceMappingURL=a.js.map"] := by decide +kernel
  obtain ⟨⟨module, comments⟩, parsed, texts⟩ := Except.map_eq_ok.1 found
  have installed : options.commentFilter = some .mapReferences := rfl
  obtain ⟨store, handed, _, _, clean⟩ := stored Plugin.builtin text options module comments parsed
  have ends : ended.here.rest = [] := by decide +kernel
  have faultless : ended.faults = s.faults := by decide +kernel
  have enough : (c.rest ++ (mapReference "a.js").toList).length ≤ s'.size := by decide +kernel
  obtain ⟨eof, _, _, same⟩ :=
    trailer "a.js" (isLineEnd_eq_false_of_any (by decide)) s s' c _ _ _ ends faultless enough rfl
  exact ⟨⟨module, comments, store, parsed, texts, handed, clean installed⟩, ends, faultless, enough,
    rfl, eof, same options installed⟩

end ScriptMaps
