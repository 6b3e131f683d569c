import ScriptMaps.Syntax.Parser.Basic

/-!
# Names

Identifiers, the names of properties and private names, and the goals at which parsing recurs.
-/

namespace ScriptMaps.Syntax.Parser

/-- What a part of a text is to be read as, where reading it means reading parts of its own kind. -/
inductive Goal where
  | expression
  | assignment
  | unary
  | binaryRest (left : Node) (least : Nat)
  | leftHandSide
  | constructOrMember
  | markup
  | binding
  | statement (admitsDeclaration : Bool)
  | block
  deriving Inhabited

/-- The parser of each goal, with which the parsers of larger parts are built. -/
abbrev Recur := Goal → Parser Node

/-- An identifier, in a place where a name is introduced or meant. -/
def identifier : Parser Node := do
  let start ← pos
  let span ← span
  match ← token with
  | .word name =>
    if name == "enum" || name == "yield" || name == "let" || strictReserved.contains name then
      bump
      note start (.strictIdentifier name)
      return .ident span name
    else if name == "await" then
      if (← context).inStaticBlock then failAt start .expectedIdentifier
      else failAt start .awaitAsIdentifier
    else if isKeyword name then failAt start .expectedIdentifier
    else
      bump
      if name == "arguments" && (← context).inClassField then note start .argumentsInField
      return .ident span name
  | _ => fail .expectedIdentifier

/-- Names that strict code may not bind. -/
def isRestrictedName (name : String) : Bool := name == "eval" || name == "arguments"

/-- An identifier that is introduced. -/
def bindingIdentifier : Parser Node := do
  let node ← identifier
  match node with
  | .ident span name =>
    if isRestrictedName name then note span.lo .restrictedBinding
    if (← context).inGenerator && name == "yield" then note span.lo .expectedIdentifier
  | _ => pure ()
  return node

/-- An identifier that is introduced and may not be called `let`. -/
def declaredIdentifier : Parser Node := do
  if ← isWord "let" then unexpected "let is reserved in const, let, class declaration"
  bindingIdentifier

/-- Any word, as the name of a property. -/
def wordName : Parser Node := do
  let span ← span
  match ← token with
  | .word name =>
    bump
    return .keyName span name
  | _ => fail .expectedIdentifier

/-- A private name, whose hash stands right before it. -/
def privateName : Parser Node := do
  let start ← pos
  expect .hash
  if (← pos) != start + 1 then failAt start .spaceAfterHash
  match ← wordName with
  | .keyName span name => return .privateName ⟨start, span.hi⟩ name
  | node => return node

/-- A string literal if the current token is one. -/
def stringLiteral? : Parser (Option Node) := do
  let span ← span
  match ← token with
  | .str value raw =>
    bump
    return some (.literal span (.str value raw))
  | _ => return none

/-- Whether an expression is a link of an optional chain. -/
def isChain : Node → Bool
  | .chainMember .. | .chainCall .. => true
  | _ => false

/-- The key of a property: a word, a string, a number or an expression in brackets. -/
def propertyName (recur : Recur) : Parser Node := do
  let span ← span
  match ← token with
  | .str value raw =>
    bump
    return .literal span (.str value raw)
  | .num raw =>
    bump
    return .literal span (.num raw)
  | .bigint raw =>
    bump
    return .literal span (.bigint raw)
  | .word name =>
    bump
    return .keyName span name
  | .mark .bracketOpen =>
    bump
    let expr ← within ({ · with admitsIn := true }) (recur .assignment)
    expect .bracketClose
    return .computedKey (← spanFrom span.lo) expr
  | _ => unexpected "identifier, string literal, numeric literal or [ for the computed key"

end ScriptMaps.Syntax.Parser
