import ScriptMaps.Syntax.Parser.Pattern

/-!
# Functions

Parameters and bodies, which functions, arrows, methods and accessors share.
-/

namespace ScriptMaps.Syntax.Parser

/-- The rest parameter whose dots begin at a position; only `admitsDefault` lets it have a default,
which is noted. -/
def restParameter (recur : Recur) (start : Nat) (admitsDefault : Bool) : Parser Node := do
  let dots ← spanFrom start
  let target ← recur .binding
  let target ←
    if admitsDefault then
      if ← eatEquals then
        let right ← recur .assignment
        note target.span.lo .restWithDefault
        pure (Node.defaultPattern (← spanFrom start) target right)
      else pure target
    else pure target
  return .restPattern (← spanFrom start) dots target

/-- The parameters of a function, up to the closing parenthesis. -/
def formalParameters (recur : Recur) (admitsRestDefault : Bool) : Parser (List Node) :=
  many do
    if ← isMark .parenClose then return none
    let start ← pos
    let isRest ← eat .ellipsis
    let pattern ←
      if isRest then restParameter recur start admitsRestDefault else bindingElement recur
    let span ← spanFrom start
    if !(← isMark .parenClose) then
      let comma ← pos
      expect .comma
      if isRest then
        if ← isMark .parenClose then note comma .commaAfterRest
        else note start .restParameterNotLast
    return some (.param span pattern)

/-- Notes a directive that may not stand in a function whose parameters are not plain names. -/
def checkDirectives (body : Node) (params : List Node) : Parser Unit := do
  match body with
  | .block _ stmts =>
    if !areSimple params then
      match (Node.prologue stmts).find? Node.isStrictDirective with
      | some s => note s.span.lo .strictDirectiveHere
      | none => pure ()
  | _ => pure ()

/-- The surroundings inside the body of a function. -/
def bodyContext (isAsync isGenerator isArrow : Bool) (c : Context) : Context :=
  { c with
    inAsync := isAsync
    inGenerator := isGenerator
    hasOwnThis := if isArrow then c.hasOwnThis else true
    inFunction := true
    inStaticBlock := false
    admitsBreak := false
    admitsContinue := false }

/-- The body of a function: statements in braces. -/
def functionBody (recur : Recur) (isAsync isGenerator : Bool) (params : List Node) :
    Parser Node := do
  let body ← withLabels [] <|
    within (fun c => { bodyContext isAsync isGenerator false c with admitsIn := true })
      (recur .block)
  checkDirectives body params
  return body

/-- The body of an arrow: statements in braces or one expression. -/
def arrowBody (recur : Recur) (isAsync : Bool) (params : List Node) : Parser Node := do
  let body ← withLabels [] <| within (bodyContext isAsync false true) do
    if ← isMark .braceOpen then within ({ · with admitsIn := true }) (recur .block)
    else recur .assignment
  checkDirectives body params
  return body

/-- The parameters and the body of a function; `check` looks at the parameters in between. -/
def functionTail (recur : Recur) (isAsync isGenerator : Bool)
    (check : List Node → Parser Unit := fun _ => pure ()) : Parser (List Node × Node) :=
  within ({ · with inAsync := isAsync, inGenerator := isGenerator }) do
    expect .parenOpen
    let params ← within ({ · with inParameters := true, inFunction := false }) do
      let params ← formalParameters recur true
      check params
      return params
    expect .parenClose
    let body ← functionBody recur isAsync isGenerator params
    return (params, body)

/-- A function after the word `async`, if it has one; `start` is where it begins. -/
def functionFrom (recur : Recur) (start : Nat) (isAsync isExpression needsName : Bool) :
    Parser Node := do
  expectWord "function"
  let isGenerator := (← token) == .operator .mul
  if isGenerator then bump
  let outer (c : Context) : Context := { c with admitsSuper := false, inClassField := false }
  let inner (c : Context) : Context :=
    if isExpression then { outer c with inAsync := isAsync, inGenerator := isGenerator }
    else outer c
  let name ← within inner do
    if needsName || (← token).isName then return some (← bindingIdentifier)
    else return none
  let (params, body) ← within outer (functionTail recur isAsync isGenerator)
  return .functionDef (← spanFrom start) isAsync isGenerator name params body

/-- A function that may begin with the word `async`. -/
def functionAny (recur : Recur) (isExpression needsName : Bool) : Parser Node := do
  let start ← pos
  let isAsync ← eatWord "async"
  functionFrom recur start isAsync isExpression needsName

/-- Whether an `async` function begins at the current token. -/
def atAsyncFunction : Parser Bool := do
  if ← isWord "async" then
    let (next, lineBreak) ← peek
    return next.isWord "function" && !lineBreak
  return false

/-- Notes at a position that a getter has parameters. -/
def checkGetter (place : Nat) (params : List Node) : Parser Unit := do
  if !params.isEmpty then note place .getterParameter

/-- Notes at a position that a setter has another number of parameters than one, and a rest that it
takes. -/
def checkSetter (place : Nat) (params : List Node) : Parser Unit := do
  if params.length != 1 then note place .setterParameter
  match params.head? with
  | some (.param span (.restPattern ..)) => note span.lo .restInSetter
  | _ => pure ()

end ScriptMaps.Syntax.Parser
