import ScriptMaps.Syntax.Token
import ScriptMaps.Syntax.Comment
import ScriptMaps.Text.CharacterClass

/-!
# Reading one token

A `Cursor` is what is left of a text and the position where that begins. Each reader takes a cursor
to the place after what it read. Where a text may go on for long, the bound `fuel` is the length of
the text, which no reader can outrun.

Faults that stop a token become a `bad` token; those a reader can pass over are collected.
-/

namespace ScriptMaps.Syntax

open ScriptMaps.Text

/-- What is left of a text, and where it begins. -/
structure Cursor where
  rest : List Char
  pos : Nat
  deriving Repr, Inhabited

namespace Cursor

/-- Passes over some characters. -/
def advance (c : Cursor) (n : Nat) : Cursor := ⟨c.rest.drop n, c.pos + n⟩

/-- The next character. -/
def head? (c : Cursor) : Option Char := c.rest.head?

/-- Whether some text comes next. -/
def startsWith (c : Cursor) (text : String) : Bool := text.toList.isPrefixOf c.rest

/-- The longest run of characters with a property, and the place after it. -/
def span (c : Cursor) (p : Char → Bool) : List Char × Cursor :=
  let run := c.rest.takeWhile p
  (run, ⟨c.rest.dropWhile p, c.pos + run.length⟩)

/-- The text from one cursor to a later one of the same text. -/
def textTo (c d : Cursor) : String := String.ofList (c.rest.take (d.pos - c.pos))

end Cursor

/-- The value of a digit in any radix up to 36. -/
def digitValue? (c : Char) : Option Nat :=
  if c.isDigit then some (c.toNat - '0'.toNat)
  else if 'a' ≤ c && c ≤ 'z' then some (c.toNat - 'a'.toNat + 10)
  else if 'A' ≤ c && c ≤ 'Z' then some (c.toNat - 'A'.toNat + 10)
  else none

/-- Whether a character is a digit of a radix. -/
def isDigitOf (radix : Radix) (c : Char) : Bool :=
  match digitValue? c with
  | some v => v < radix.base
  | none => false

/-- The number a run of digits stands for. -/
def digitsValue (base : Nat) (ds : List Char) : Nat :=
  ds.foldl (fun n c => n * base + (digitValue? c).getD 0) 0

/-! ## What stands between tokens -/

/-- A comment passed over: whether a line had ended before it, and whether a semicolon comes
next. -/
structure PassedComment where
  comment : Comment
  afterLineBreak : Bool
  beforeSemicolon : Bool

/-- Blanks and comments passed over, and whether a line ended. A line passed over that may not stand
there counts to the next token, which then begins where the first such line does. A fault that waits
is collected behind those of the blanks and comments that follow it. -/
structure Gap where
  cursor : Cursor
  lineBreak : Bool
  tokenStart : Option Nat := none
  comments : List PassedComment := []
  faults : List Fault := []
  waiting : List Fault := []
  deriving Inhabited

namespace Gap

/-- Collects the faults that wait. -/
def settle (g : Gap) : Gap := { g with faults := g.faults ++ g.waiting, waiting := [] }

/-- Passes over a comment up to a cursor. -/
def pass (g : Gap) (after : Cursor) (isBlock : Bool) (body : List Char) : Gap :=
  let next := after.rest.dropWhile fun c => isLineEnd c || isInlineBlank c
  let passed : PassedComment :=
    { comment := ⟨⟨g.cursor.pos, after.pos⟩, isBlock, String.ofList body⟩
      afterLineBreak := g.lineBreak
      beforeSemicolon := next.head? == some ';' }
  { g with
    cursor := after
    lineBreak := g.lineBreak || (isBlock && body.any isLineEnd)
    comments := g.comments ++ [passed] }

/-- Passes over the rest of a line as a comment, after an opening of a width. -/
def passLine (g : Gap) (width : Nat) : Gap :=
  let (body, after) := (g.cursor.advance width).span (!isLineEnd ·)
  g.pass after false body

/-- Passes over the rest of a line that begins with a mark that may not stand there. -/
def passRefused (g : Gap) (width : Nat) : Gap :=
  { g.settle with tokenStart := g.tokenStart.or (some g.cursor.pos) }.passLine width

/-- Passes over the rest of a line that begins with a mark that may not stand there, and collects
that fault first. -/
def refuseLine (g : Gap) (width : Nat) (cause : Cause) : Gap :=
  let fault : Fault := ⟨g.cursor.pos, cause⟩
  let g := g.settle
  { g with faults := g.faults ++ [fault] }.passRefused width

end Gap

/-- The text of a block comment, after its opening, up to its end. -/
def blockCommentBody : List Char → Option (List Char)
  | [] => none
  | '*' :: '/' :: _ => some []
  | c :: r => (blockCommentBody r).map (c :: ·)

/-- What a tool for merging texts leaves at the beginning of a line where it met a conflict, for the
ends of both sides of the conflict. -/
def conflictMarkers : List String := ["<<<<<<< ", "=======", ">>>>>>> "]

/-- What such a tool leaves before the text that both sides stem from. -/
def ancestorMarker : String := "||||||| "

/-- Passes over blanks and comments. -/
def skipGap : Nat → Gap → Gap
  | 0, g => g.settle
  | fuel + 1, g =>
    let c := g.cursor
    match c.rest with
    | [] => g.settle
    | ch :: _ =>
      if isLineEnd ch then skipGap fuel { g with cursor := c.advance 1, lineBreak := true }
      else if isInlineBlank ch then skipGap fuel { g with cursor := c.advance 1 }
      else if c.startsWith "//" then skipGap fuel (g.passLine 2)
      else if c.startsWith "/*" then
        match blockCommentBody (c.advance 2).rest with
        | none =>
          let after := c.advance c.rest.length
          let fault : Fault := ⟨after.pos, .unterminatedBlockComment⟩
          { g with cursor := after, faults := g.faults ++ [fault] }.settle
        | some body => skipGap fuel (g.pass (c.advance (body.length + 4)) true body)
      else if c.startsWith "<!--" then
        skipGap fuel { g.passRefused 4 with waiting := [⟨c.pos, .legacyComment⟩] }
      else if g.lineBreak && c.startsWith "-->" then
        skipGap fuel (g.refuseLine 3 .legacyComment)
      else if g.lineBreak && conflictMarkers.any (c.startsWith ·) then
        skipGap fuel (g.refuseLine 7 .mergeConflict)
      else g.settle

/-! ## Digits and escapes -/

/-- A run of digits with separators, and the place after it. -/
structure Digits where
  digits : List Char
  cursor : Cursor
  faults : List Fault

/-- Whether the characters beside a separator forbid it. -/
def forbidsSeparator (radix : Radix) (c : Char) : Bool :=
  match radix with
  | .hexadecimal => ['.', 'X', '_', 'x'].contains c
  | _ => ['.', 'B', 'E', 'O', '_', 'b', 'e', 'o'].contains c

/-- Reads at most `most` digits of a radix; a separator belongs between two of them. -/
def readDigits (radix : Radix) (start most : Nat) : Nat → Digits → Option Char → Digits
  | 0, d, _ => d
  | fuel + 1, d, previous =>
    if d.digits.length ≥ most then d
    else
      match d.cursor.rest with
      | '_' :: r =>
        let next := r.head?
        let allowed := (next.map (isDigitOf radix)).getD false
          && !((previous.map (forbidsSeparator radix)).getD false)
          && !((next.map (forbidsSeparator radix)).getD false)
        let faults := if allowed then d.faults else d.faults ++ [⟨start, .misplacedSeparator⟩]
        readDigits radix start most fuel
          { d with cursor := d.cursor.advance 1, faults := faults } previous
      | c :: _ =>
        if isDigitOf radix c then
          readDigits radix start most fuel
            { d with digits := d.digits ++ [c], cursor := d.cursor.advance 1 } (some c)
        else d
      | [] => d

/-- The digits at a cursor, at most `most` of them. -/
def digitsAt (fuel : Nat) (radix : Radix) (most : Nat) (c : Cursor) : Digits :=
  readDigits radix c.pos most fuel ⟨[], c, []⟩ none

/-- What an escape stands for, or why it stands for nothing, with the place after what was read of
it and the faults passed over. -/
structure Escape where
  value : Except Fault (List Nat)
  cursor : Cursor
  faults : List Fault := []

/-- Whether a code point is the first half of a surrogate pair. -/
def isHighHalf (n : Nat) : Bool := 0xd800 ≤ n && n ≤ 0xdbff

/-- Whether a code point is the second half of a surrogate pair. -/
def isLowHalf (n : Nat) : Bool := 0xdc00 ≤ n && n ≤ 0xdfff

/-- The code point of a surrogate pair. -/
def joinHalves (high low : Nat) : Nat := 0x10000 + (high - 0xd800) * 0x400 + (low - 0xdc00)

/-- The half of a surrogate pair that four digits at a cursor stand for, with the other half if an
escape for it follows. -/
def halfEscape (fuel : Nat) (c : Cursor) : Escape :=
  let d := digitsAt fuel .hexadecimal 4 c
  let half := digitsValue 16 d.digits
  if isHighHalf half && d.cursor.startsWith "\\u" then
    let e := digitsAt fuel .hexadecimal 4 (d.cursor.advance 2)
    let other := digitsValue 16 e.digits
    if e.digits.length != 4 then
      ⟨.error ⟨e.cursor.pos, .badEscape "4 hex characters"⟩, e.cursor, e.faults⟩
    else if isLowHalf other then ⟨.ok [joinHalves half other], e.cursor, e.faults⟩
    else ⟨.ok [half], d.cursor, []⟩
  else ⟨.ok [half], d.cursor, []⟩

/-- Reads what follows the `u` of an escape: four digits, or digits in braces. -/
def unicodeEscape (fuel : Nat) (c : Cursor) : Escape :=
  let isBraced := c.startsWith "\x7b"
  let start := if isBraced then c.advance 1 else c
  let d := digitsAt fuel .hexadecimal (if isBraced then fuel else 4) start
  let value := digitsValue 16 d.digits
  let refuse (expected : String) : Escape :=
    ⟨.error ⟨d.cursor.pos, .badEscape expected⟩, d.cursor, d.faults⟩
  if d.digits.isEmpty || value ≥ 0x100000000 then
    refuse (if isBraced then "1-6 hex characters" else "4 hex characters")
  else if !isBraced && d.digits.length != 4 then refuse "4 hex characters"
  else if value > 0x10ffff then refuse "1-6 hex characters in the range 0 to 10FFFF."
  else
    let e := if isHighHalf value || isLowHalf value then halfEscape fuel start
      else ⟨.ok [value], d.cursor, []⟩
    let e := { e with faults := d.faults ++ e.faults }
    match e.value with
    | .error _ => e
    | .ok _ =>
      if !isBraced then e
      else if e.cursor.startsWith "\x7d" then { e with cursor := e.cursor.advance 1 }
      else { e with value := .error ⟨start.pos, .badUnicodeEscape⟩ }

/-- Reads an escape by octal digits, which only the digit for NUL on its own is free of fault. -/
def octalEscape (inTemplate : Bool) (c : Cursor) (ch : Char) : Escape :=
  let body := c.advance 1
  let after := body.advance 1
  let fault : Fault := ⟨c.pos, .legacyOctal⟩
  if ch == '0' && !((after.head?.map (isDigitOf .octal)).getD false) then ⟨.ok [0], after, []⟩
  else if inTemplate then ⟨.error fault, after, []⟩
  else
    let more := (after.rest.take 2).takeWhile (isDigitOf .octal)
    let ds := if digitsValue 8 (ch :: more) > 255 then ch :: more.take 1 else ch :: more
    ⟨.ok [digitsValue 8 ds], body.advance ds.length, [fault]⟩

/-- Reads an escape of a string or a template; the cursor stands at its backslash, where its faults
are reported. -/
def textEscape (fuel : Nat) (inTemplate : Bool) (c : Cursor) : Escape :=
  let body := c.advance 1
  match body.rest with
  | [] => ⟨.error ⟨c.pos, .badStringEscape⟩, body, []⟩
  | ch :: _ =>
    let after := body.advance 1
    let plain (n : Nat) : Escape := ⟨.ok [n], after, []⟩
    match ch with
    | 'n' => plain 10
    | 't' => plain 9
    | 'r' => plain 13
    | 'b' => plain 8
    | 'f' => plain 12
    | 'v' => plain 11
    | 'x' =>
      let d := digitsAt fuel .hexadecimal 2 after
      if d.digits.length == 2 then ⟨.ok [digitsValue 16 d.digits], d.cursor, d.faults⟩
      else ⟨.error ⟨c.pos, .badEscape "2 hex characters"⟩, d.cursor, d.faults⟩
    | 'u' =>
      let e := unicodeEscape fuel after
      match e.value with
      | .error f => { e with value := .error { f with pos := c.pos } }
      | .ok _ => e
    | '\r' => ⟨.ok [], if after.startsWith "\n" then after.advance 1 else after, []⟩
    | _ =>
      if isLineEnd ch then ⟨.ok [], after, []⟩
      else if isDigitOf .octal ch then octalEscape inTemplate c ch
      else plain ch.toNat

/-! ## Literals and words -/

/-- A token read, with the place after it and the faults passed over. -/
structure Read where
  token : Token
  cursor : Cursor
  faults : List Fault := []
  deriving Inhabited

/-- Reads a string literal after its opening quote; `start` is where the literal begins. -/
def stringBody (quote : Char) (start : Cursor) :
    Nat → Cursor → List Nat → List Fault → Read
  | 0, c, _, faults => ⟨.bad ⟨start.pos, .unterminatedString⟩, c, faults⟩
  | fuel + 1, c, value, faults =>
    match c.rest with
    | [] =>
      ⟨.str value.reverse (start.textTo c), c, faults ++ [⟨start.pos, .unterminatedString⟩]⟩
    | ch :: _ =>
      if ch == quote then
        let after := c.advance 1
        ⟨.str value.reverse (start.textTo after), after, faults⟩
      else if ch == '\n' || ch == '\r' then
        ⟨.str value.reverse (start.textTo c), c, faults ++ [⟨start.pos, .unterminatedString⟩]⟩
      else if ch == '\\' then
        let e := textEscape (fuel + 1) false c
        match e.value with
        | .ok points =>
          stringBody quote start fuel e.cursor (points.reverse ++ value) (faults ++ e.faults)
        | .error f => ⟨.bad f, e.cursor, faults ++ e.faults⟩
      else stringBody quote start fuel (c.advance 1) (ch.toNat :: value) faults

/-- The text of a template up to its end or to the next expression in it. -/
def templateText : List Char → Option (List Char)
  | [] => none
  | c :: rest =>
    if c == '`' || (c == '$' && rest.head? == some '\x7b') then some []
    else if c == '\\' then
      match rest with
      | d :: rest => (templateText rest).map (c :: d :: ·)
      | [] => none
    else (templateText rest).map (c :: ·)

/-- What is wrong with the escapes of a template's text: the faults passed over, and the last escape
that stands for nothing. -/
def templateFaults : Nat → Cursor → List Fault × Option Fault
  | 0, _ => ([], none)
  | fuel + 1, c =>
    match c.rest with
    | [] => ([], none)
    | '\\' :: _ =>
      let e := textEscape (fuel + 1) true c
      let (passed, last) := templateFaults fuel e.cursor
      match e.value with
      | .ok _ => (e.faults ++ passed, last)
      | .error f => (e.faults ++ passed, last.or (some f))
    | _ => templateFaults fuel (c.advance 1)

/-- Reads the opening of a template, which has to end somewhere. -/
def readTemplate (c : Cursor) : Read :=
  let body := c.advance 1
  match templateText body.rest with
  | none => ⟨.bad ⟨c.pos, .unterminatedTemplate⟩, c.advance c.rest.length, []⟩
  | some text =>
    let (passed, _) := templateFaults (text.length + 1) ⟨text, body.pos⟩
    ⟨.template ((body.advance text.length).startsWith "`"), body, passed⟩

/-- Reads at least one digit. -/
def someDigits (fuel : Nat) (radix : Radix) (c : Cursor) : Except Fault Digits :=
  let d := digitsAt fuel radix fuel c
  if d.digits.isEmpty then .error ⟨c.pos, .missingDigit radix⟩ else .ok d

/-- Finishes a number, which no letter may follow. -/
def finishNumber (token : Token) (c : Cursor) (faults : List Fault) : Read :=
  match c.head? with
  | some ch =>
    if isAsciiIdentifierStart ch then ⟨.bad ⟨c.pos, .identifierAfterNumber⟩, c, faults⟩
    else ⟨token, c, faults⟩
  | none => ⟨token, c, faults⟩

/-- Reads the exponent of a decimal number, if there is one, and finishes the number. -/
def readExponent (fuel : Nat) (start c : Cursor) (faults : List Fault) : Read :=
  match c.head? with
  | some 'e' | some 'E' =>
    let after := c.advance 1
    match after.head? with
    | none => ⟨.bad ⟨after.pos, .missingExponent⟩, after, faults⟩
    | some sign =>
      let digits := if sign == '+' || sign == '-' then after.advance 1 else after
      match someDigits fuel .decimal digits with
      | .error f => ⟨.bad f, digits, faults⟩
      | .ok d => finishNumber (.num (start.textTo d.cursor)) d.cursor (faults ++ d.faults)
  | _ => finishNumber (.num (start.textTo c)) c faults

/-- Reads the fraction of a decimal number, if there is one, and what follows. -/
def readFraction (fuel : Nat) (start c : Cursor) (faults : List Fault) : Read :=
  match c.head? with
  | some '.' =>
    let after := c.advance 1
    let d := digitsAt fuel .decimal fuel after
    readExponent fuel start d.cursor (faults ++ d.faults)
  | _ => readExponent fuel start c faults

/-- Reads a number with a radix mark; the cursor stands at its zero. -/
def readRadixNumber (fuel : Nat) (radix : Radix) (c : Cursor) : Read :=
  match someDigits fuel radix (c.advance 2) with
  | .error f => ⟨.bad f, c.advance 2, []⟩
  | .ok d =>
    if d.cursor.startsWith "n" then
      let after := d.cursor.advance 1
      ⟨.bigint (c.textTo after), after, d.faults⟩
    else finishNumber (.num (c.textTo d.cursor)) d.cursor d.faults

/-- Reads a number; the cursor stands at its first character. -/
def readNumber (fuel : Nat) (c : Cursor) : Read :=
  match c.rest with
  | '0' :: 'x' :: _ | '0' :: 'X' :: _ => readRadixNumber fuel .hexadecimal c
  | '0' :: 'o' :: _ | '0' :: 'O' :: _ => readRadixNumber fuel .octal c
  | '0' :: 'b' :: _ | '0' :: 'B' :: _ => readRadixNumber fuel .binary c
  | '.' :: _ => readFraction fuel c c []
  | first :: _ =>
    match someDigits fuel .decimal c with
    | .error f => ⟨.bad f, c.advance 1, []⟩
    | .ok d =>
      let width := d.cursor.pos - c.pos
      if (first != '0' || width == 1) && d.cursor.startsWith "n" then
        let after := d.cursor.advance 1
        ⟨.bigint (c.textTo after), after, d.faults⟩
      else if first == '0' && width > 1 then
        if d.digits.all (isDigitOf .octal) then
          let r := finishNumber (.num (c.textTo d.cursor)) d.cursor d.faults
          match r.token with
          | .num _ => { r with faults := r.faults ++ [⟨c.pos, .legacyOctal⟩] }
          | _ => r
        else readFraction fuel c d.cursor (d.faults ++ [⟨c.pos, .legacyDecimal⟩])
      else readFraction fuel c d.cursor d.faults
  | [] => ⟨.eof, c, []⟩

/-- The letters of a word, whether any was written as an escape, and the fault that ended it, if
one did. -/
structure Letters where
  letters : List Char
  isEscaped : Bool
  cursor : Cursor
  faults : List Fault
  stopped : Option Fault

/-- Reads the letters of a word. An escape may stand for any character of an identifier; for any
other that is noted. -/
def readLetters : Nat → Letters → Letters
  | 0, l => l
  | fuel + 1, l =>
    let c := l.cursor
    match c.rest with
    | '\\' :: 'u' :: _ =>
      let e := unicodeEscape (fuel + 1) (c.advance 2)
      let l := { l with isEscaped := true, cursor := e.cursor, faults := l.faults ++ e.faults }
      match e.value with
      | .error f => { l with stopped := some f }
      | .ok points =>
        let found := points.map Char.ofNat
        let fits := found.all isIdentifierContinue
        let noted := if fits then [] else [⟨c.pos, .badIdentifierCharacter⟩]
        readLetters fuel { l with letters := l.letters ++ found, faults := l.faults ++ noted }
    | '\\' :: _ =>
      { l with cursor := c.advance 1, stopped := some ⟨c.pos, .missingUnicodeEscape⟩ }
    | ch :: _ =>
      if isIdentifierContinue ch then
        readLetters fuel { l with letters := l.letters ++ [ch], cursor := c.advance 1 }
      else l
    | [] => l

/-- The letters at a cursor. -/
def lettersAt (fuel : Nat) (c : Cursor) : Letters := readLetters fuel ⟨[], false, c, [], none⟩

/-- Reads a word. A reserved one may not be written with escapes; `isStrict` tells whether what only
strict code reserves is. -/
def readWord (fuel : Nat) (isStrict : Bool) (c : Cursor) : Read :=
  let l := lettersAt fuel c
  let name := String.ofList l.letters
  let isTaken := if isStrict then isReserved name else isAlwaysReserved name
  match l.stopped with
  | some f => ⟨.bad f, l.cursor, l.faults⟩
  | none =>
    if l.isEscaped && isTaken then ⟨.bad ⟨c.pos, .escapedReservedWord name⟩, l.cursor, l.faults⟩
    else ⟨.word name, l.cursor, l.faults⟩

/-- The marks and operators, those that begin with another before it. -/
def marks : List (String × Token) :=
  [(">>>=", .assignment (.compound .ushr)), ("...", .mark .ellipsis),
   ("===", .operator .eqEqEq), ("!==", .operator .notEqEq), (">>>", .operator .ushr),
   ("<<=", .assignment (.compound .shl)), (">>=", .assignment (.compound .shr)),
   ("**=", .assignment (.compound .pow)), ("&&=", .assignment (.compound .and)),
   ("||=", .assignment (.compound .or)), ("??=", .assignment (.compound .coalesce)),
   ("=>", .mark .arrow), ("==", .operator .eqEq), ("!=", .operator .notEq),
   ("<=", .operator .le), (">=", .operator .ge), ("<<", .operator .shl), (">>", .operator .shr),
   ("**", .operator .pow), ("&&", .operator .and), ("||", .operator .or),
   ("??", .operator .coalesce), ("++", .mark .plusPlus), ("--", .mark .minusMinus),
   ("+=", .assignment (.compound .add)), ("-=", .assignment (.compound .sub)),
   ("*=", .assignment (.compound .mul)), ("/=", .assignment (.compound .div)),
   ("%=", .assignment (.compound .mod)), ("&=", .assignment (.compound .bitAnd)),
   ("|=", .assignment (.compound .bitOr)), ("^=", .assignment (.compound .bitXor)),
   ("(", .mark .parenOpen), (")", .mark .parenClose), ("\x7b", .mark .braceOpen),
   ("\x7d", .mark .braceClose), ("[", .mark .bracketOpen), ("]", .mark .bracketClose),
   (";", .mark .semicolon), (",", .mark .comma), (".", .mark .dot), (":", .mark .colon),
   ("?", .mark .question), ("#", .mark .hash), ("@", .mark .at), ("!", .mark .bang),
   ("~", .mark .tilde), ("=", .assignment .plain),
   ("<", .operator .lt), (">", .operator .gt), ("+", .operator .add), ("-", .operator .sub),
   ("*", .operator .mul), ("/", .operator .div), ("%", .operator .mod),
   ("&", .operator .bitAnd), ("|", .operator .bitOr), ("^", .operator .bitXor)]

/-- Reads the token at a cursor, in strict code or not. At the beginning of a line, the marker
before what both sides of a conflict stem from is a bad token up to the end of the line. -/
def readToken (fuel : Nat) (isStrict afterLineBreak : Bool) (c : Cursor) : Read :=
  match c.rest with
  | [] => ⟨.eof, c, []⟩
  | ch :: r =>
    let nextIsDigit := (r.head?.map Char.isDigit).getD false
    if ch.isDigit || (ch == '.' && nextIsDigit) then readNumber fuel c
    else if ch == '"' || ch == '\x27' then stringBody ch c fuel (c.advance 1) [] []
    else if ch == '`' then readTemplate c
    else if isIdentifierStart ch || ch == '\\' then readWord fuel isStrict c
    else if afterLineBreak && c.startsWith ancestorMarker then
      let fault : Fault := ⟨c.pos, .mergeConflict⟩
      ⟨.bad fault, (c.span (!isLineEnd ·)).2, [fault]⟩
    else
      match marks.find? fun m => c.startsWith m.1 with
      | some (text, token) => ⟨token, c.advance text.length, []⟩
      | none => ⟨.bad ⟨c.pos, .unexpectedCharacter ch⟩, c.advance 1, []⟩

/-- Where the body of a regular expression ends; the cursor stands after its opening slash. -/
def regexBody : Nat → Cursor → Bool → Bool → Option Cursor
  | 0, _, _, _ => none
  | fuel + 1, c, escaped, inClass =>
    match c.rest with
    | [] => none
    | ch :: _ =>
      if ch == '\n' || ch == '\r' then none
      else if escaped then regexBody fuel (c.advance 1) false inClass
      else if ch == '/' && !inClass then some c
      else
        regexBody fuel (c.advance 1) (ch == '\\')
          (if ch == '[' then true else if ch == ']' then false else inClass)

/-- Reads a regular expression; the cursor stands at its opening slash. Its flags are a word that
begins with an ASCII letter. -/
def readRegex (fuel : Nat) (c : Cursor) : Read :=
  let body := c.advance 1
  match regexBody fuel body false false with
  | none => ⟨.bad ⟨c.pos, .unterminatedRegex⟩, c.advance c.rest.length, []⟩
  | some stop =>
    let after := stop.advance 1
    if (after.head?.map isAsciiIdentifierStart).getD false then
      let l := lettersAt fuel after
      match l.stopped with
      | some f => ⟨.bad f, l.cursor, l.faults⟩
      | none => ⟨.regex (body.textTo stop) (String.ofList l.letters), l.cursor, l.faults⟩
    else ⟨.regex (body.textTo stop) "", after, []⟩

end ScriptMaps.Syntax
