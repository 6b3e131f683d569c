import ScriptMaps.Syntax.Parser.Expression
import ScriptMaps.Syntax.Parser.Markup
import ScriptMaps.Syntax.Parser.Item

/-!
# Parsing a module

The parsers of the goals are tied together here, each built with the parser of smaller depth. A text
is a module only if nothing was noted on the way.
-/

namespace ScriptMaps.Syntax

namespace Parser

/-- The parser of a goal, for nesting up to a depth. -/
def parse : Nat → Recur
  | 0, _ => do throw ⟨← pos, .tooDeep⟩
  | depth + 1, goal =>
    let recur := parse depth
    match goal with
    | .expression => expression recur
    | .assignment => assignment recur
    | .unary => unary recur
    | .binaryRest left least => binaryRest recur left least
    | .leftHandSide => leftHandSide recur
    | .constructOrMember => constructOrMember recur
    | .markup => markup recur
    | .binding => binding recur
    | .statement admitsDeclaration => statement recur admitsDeclaration
    | .block => blockStatement recur

/-- The state before the first token of a text. -/
def initial (hasMarkup : Bool) (text : List Char) : State where
  hasMarkup := hasMarkup
  isStrict := false
  size := text.length
  token := .eof
  span := ⟨1, 1⟩
  afterLineBreak := false
  here := ⟨text, 1⟩
  after := text
  previous := ⟨1, 1⟩
  faults := []
  comments := {}
  labels := []
  arrowStart := none
  trailingCommas := []
  context := { admitsIn := false }

/-- Makes the text module code, which is strict. Of what was noted up to its first token, the faults
that only strict code has come last. -/
def beginModule : Parser Unit :=
  modify fun s =>
    let (strict, others) := s.faults.partition (·.cause.isStrictOnly)
    { s with isStrict := true, faults := others ++ strict }

/-- The line that names an interpreter, if a text begins with one, and the token after it. -/
def interpreterLine : Parser (Option String) := do
  let start : Cursor ← cursorHere
  if start.startsWith "#!" then
    let (line, after) := (start.advance 2).span (!Text.isLineEnd ·)
    let line := String.ofList line
    install start ⟨.interpreter line, after, []⟩ false
    beginModule
    bump
    return some line
  else
    load start none start.pos true
    beginModule
    return none

/-- A whole module. -/
def module (depth : Nat) : Parser Module := do
  let interpreter ← interpreterLine
  let start ← do
    if interpreter.isSome || (← token) == .eof then pure 1 else pos
  let items ← many do
    if (← token) == .eof then return none
    return some (← moduleItem (parse depth))
  return ⟨← spanFrom start, interpreter, items⟩

end Parser

/-- Reads a text as a module and collects its comments; markup is read as such only if `hasMarkup`.
If reading goes through, the first fault noted on the way counts, else the one that stopped it. -/
def parseModule (hasMarkup : Bool) (text : String) : Except Fault (Module × Comments) :=
  let chars := text.toList
  let depth := 10 * (chars.length + 10)
  let (result, state) := (Parser.module depth).run.run (Parser.initial hasMarkup chars)
  match result, state.faults with
  | .error f, _ => .error f
  | .ok _, f :: _ => .error f
  | .ok m, [] => .ok (m, state.comments)

end ScriptMaps.Syntax
