import ScriptMaps.Syntax.Lexer
import ScriptMaps.Syntax.Node

/-!
# The state of a parser

A parser looks at one token at a time. It may stop with a fault, and it may note faults and go on;
both leave the text to be refused. What it has learnt (noted faults, comments, how far it is) stays
when it stops, so that a caller that can go on does so from there.

The text is module code, which is strict.
-/

namespace ScriptMaps.Syntax

/-- What the surroundings of a place allow. -/
structure Context where
  inFunction : Bool := false
  inAsync : Bool := false
  inGenerator : Bool := false
  inParameters : Bool := false
  inClass : Bool := false
  inClassField : Bool := false
  inStaticBlock : Bool := false
  inLoopHead : Bool := false
  inAwaitLoopHead : Bool := false
  admitsIn : Bool := true
  admitsBreak : Bool := false
  admitsContinue : Bool := false
  admitsSuper : Bool := false
  hasOwnThis : Bool := false
  deriving Inhabited

/-- How far a parser is and what it has learnt. -/
structure State where
  hasMarkup : Bool
  isStrict : Bool
  size : Nat
  token : Token
  span : Span
  afterLineBreak : Bool
  here : Cursor
  after : List Char
  previous : Span
  faults : List Fault
  comments : Comments
  labels : List String
  arrowStart : Option Nat
  trailingCommas : List (Nat × Span)
  context : Context
  deriving Inhabited

/-- A step of parsing: it may stop with a fault, and keeps the state either way. -/
abbrev Parser := ExceptT Fault (StateM State)

namespace Parser

/-! ## Looking -/

/-- The current token. -/
def token : Parser Token := return (← get).token

/-- The span of the current token. -/
def span : Parser Span := return (← get).span

/-- Where the current token begins. -/
def pos : Parser Nat := return (← get).span.lo

/-- Whether the current token begins a line. -/
def afterLineBreak : Parser Bool := return (← get).afterLineBreak

/-- The span from a position to the end of the token before the current one. -/
def spanFrom (lo : Nat) : Parser Span := return ⟨lo, (← get).previous.hi⟩

/-- The surroundings. -/
def context : Parser Context := return (← get).context

/-- Whether the current token is a mark. -/
def isMark (m : Mark) : Parser Bool := return (← token).isMark m

/-- Whether the current token is a word. -/
def isWord (name : String) : Parser Bool := return (← token).isWord name

/-- A bound on how often anything can be repeated. -/
def bound : Parser Nat := return (← get).size + 2

/-! ## Moving -/

/-- Whether a comment of a gap belongs to the token before the gap. -/
def trails (previous : Option Token) (passed : PassedComment) : Bool :=
  match previous with
  | none => false
  | some t =>
    !passed.afterLineBreak
      && (if passed.comment.isBlock then t.admitsBlockComment || passed.beforeSemicolon
        else t.admitsLineComment)

/-- Attaches the comments of a gap: one on the line of the previous token trails it, if that token
takes comments of its kind or a semicolon follows a block comment; the others lead the next token.
What would lead the end of the text trails the last token, if there is one. -/
def attach (comments : Comments) (gap : Gap) (previous : Option Token) (previousEnd next : Nat)
    (isEnd : Bool) : Comments :=
  let (own, others) := gap.comments.partition (trails previous)
  let comments := own.foldl (fun cs e => cs.addTrailing previousEnd e.comment) comments
  let place (cs : Comments) (c : Comment) : Comments :=
    if !isEnd then cs.addLeading next c
    else if previous.isNone then cs.addLeading previousEnd c
    else cs.addTrailing previousEnd c
  others.foldl (fun cs e => place cs e.comment) comments

/-- Makes a token read at a cursor the current one. -/
def install (start : Cursor) (read : Read) (lineBreak : Bool) : Parser Unit :=
  modify fun s =>
    { s with
      token := read.token
      span := ⟨start.pos, read.cursor.pos⟩
      afterLineBreak := lineBreak
      here := start
      after := read.cursor.rest
      faults := s.faults ++ read.faults }

/-- Reads the token after a cursor, past blanks and comments. -/
def load (c : Cursor) (previous : Option Token) (previousEnd : Nat) (lineBreak : Bool) :
    Parser Unit := do
  let s ← get
  let gap := skipGap (s.size + 1) { cursor := c, lineBreak := lineBreak }
  let read := readToken (s.size + 1) s.isStrict gap.lineBreak gap.cursor
  let isEnd := gap.cursor.rest.isEmpty
  modify fun s =>
    { s with
      comments := attach s.comments gap previous previousEnd gap.cursor.pos isEnd
      faults := s.faults ++ gap.faults }
  install gap.cursor read gap.lineBreak
  match gap.tokenStart with
  | some lo => modify fun s => { s with span := { s.span with lo := lo } }
  | none => pure ()

/-- Whether a token is a regular expression that does not end. -/
def isOpenRegex : Token → Bool
  | .bad ⟨_, .unterminatedRegex⟩ => true
  | _ => false

/-- Moves to the next token. A regular expression that does not end is never passed. -/
def bump : Parser Unit := do
  let s ← get
  if isOpenRegex s.token then return
  set { s with previous := s.span }
  load ⟨s.after, s.span.hi⟩ (some s.token) s.span.hi false

/-- Where the text after the current token begins. -/
def cursorAfter : Parser Cursor := do
  let s ← get
  return ⟨s.after, s.span.hi⟩

/-- Where the text of the current token begins. -/
def cursorHere : Parser Cursor := return (← get).here

/-- The token after the current one, and whether a line ends before it. -/
def peek : Parser (Token × Bool) := do
  let s ← get
  let gap := skipGap (s.size + 1) { cursor := ⟨s.after, s.span.hi⟩, lineBreak := false }
  return ((readToken (s.size + 1) s.isStrict gap.lineBreak gap.cursor).token, gap.lineBreak)

/-! ## Faults -/

/-- Notes a fault of the text, whatever the current token is, and goes on. -/
def noteAt (pos : Nat) (cause : Cause) : Parser Unit :=
  modify fun s => { s with faults := s.faults ++ [⟨pos, cause⟩] }

/-- Gives up the current token if it is a bad one, and notes its fault. -/
def giveUpBad : Parser Unit := do
  match ← token with
  | .bad f =>
    noteAt f.pos f.cause
    bump
  | _ => pure ()

/-- Notes a fault and goes on; a bad token is given up together with it. -/
def note (pos : Nat) (cause : Cause) : Parser Unit := do
  giveUpBad
  noteAt pos cause

/-- Stops with a fault; a bad token is given up together with it. -/
def failAt {α : Type} (pos : Nat) (cause : Cause) : Parser α := do
  giveUpBad
  throw ⟨pos, cause⟩

/-- Stops with a fault at the current token. -/
def fail {α : Type} (cause : Cause) : Parser α := do failAt (← pos) cause

/-- Stops because the current token is not what may stand here. -/
def unexpected {α : Type} (wanted : String) : Parser α := do
  fail (.unexpectedToken (← token).shown wanted)

/-- Stops with the fault of the current token if that is a bad one, and moves past it. -/
def refuseBad : Parser Unit := do
  match ← token with
  | .bad f =>
    bump
    throw f
  | _ => pure ()

/-! ## Passing tokens -/

/-- Passes a mark if it is the current token. -/
def eat (m : Mark) : Parser Bool := do
  if ← isMark m then
    bump
    return true
  return false

/-- Passes the sign that gives a value. -/
def eatEquals : Parser Bool := do
  if (← token) == .assignment .plain then
    bump
    return true
  return false

/-- Passes a word if it is the current token. -/
def eatWord (name : String) : Parser Bool := do
  if ← isWord name then
    bump
    return true
  return false

/-- Passes a token that has to be there. -/
def expectToken (wanted : Token) : Parser Unit := do
  let t ← token
  if t == wanted then bump
  else fail (.expectedToken wanted.shown t.shown)

/-- Passes a mark that has to be there. -/
def expect (m : Mark) : Parser Unit := expectToken (.mark m)

/-- Passes a word that has to be there. -/
def expectWord (name : String) : Parser Unit := do
  if !(← eatWord name) then fail (.expectedToken name (← token).shown)

/-- Whether a statement may end before the current token. -/
def atStatementEnd : Parser Bool := do
  let s ← get
  return s.token.isMark .semicolon || s.token.isMark .braceClose || s.token == .eof
    || s.afterLineBreak

/-- Passes the end of a statement, written or understood. -/
def eatStatementEnd : Parser Bool := do
  if ← eat .semicolon then return true
  atStatementEnd

/-- Passes the end of a statement, which has to be there. -/
def expectStatementEnd : Parser Unit := do
  if !(← eatStatementEnd) then fail (.expectedToken ";" (← token).shown)

/-! ## Combining -/

/-- Runs a parser in changed surroundings. -/
def within {α : Type} (change : Context → Context) (p : Parser α) : Parser α := fun s =>
  let r := p.run { s with context := change s.context }
  (r.1, { r.2 with context := s.context })

/-- Runs a parser with its own labels. -/
def withLabels {α : Type} (labels : List String) (p : Parser α) : Parser α := fun s =>
  let r := p.run { s with labels := labels }
  (r.1, { r.2 with labels := s.labels })

/-- Collects what a step yields until it yields nothing. -/
def collect {α : Type} (step : Parser (Option α)) : Nat → List α → Parser (List α)
  | 0, _ => do throw ⟨← pos, .tooDeep⟩
  | fuel + 1, found => do
    match ← step with
    | none => return found.reverse
    | some a => collect step fuel (a :: found)

/-- Collects what a step yields until it yields nothing. -/
def many {α : Type} (step : Parser (Option α)) : Parser (List α) := do
  collect step (← bound) []

end Parser

end ScriptMaps.Syntax
