import ScriptMaps.Syntax.Parser.Expression
import ScriptMaps.Syntax.Children

/-!
# Statements

Blocks, declarations of variables, branches, loops, jumps and expressions that stand alone.
-/

namespace ScriptMaps.Syntax.Parser

/-! ## Defaults that are left over -/

/-- Where defaults stand in objects that were not read again as patterns, functions apart. -/
def leftoverDefaults : Nat → Node → List Span
  | 0, _ => []
  | fuel + 1, e =>
    match e with
    | .assignedName span _ _ => [span]
    | .functionDef .. | .arrow .. => []
    | _ => e.children.flatMap (leftoverDefaults fuel)

/-- Notes the defaults of objects that are no patterns. -/
def checkDefaults (e : Node) : Parser Unit := do
  for span in leftoverDefaults (← bound) e do
    note span.lo .defaultInObject

/-- An expression in which `in` is an operator. -/
def wholeExpression (recur : Recur) : Parser Node :=
  within ({ · with admitsIn := true }) (recur .expression)

/-- An expression in parentheses. -/
def parenthesizedHead (recur : Recur) : Parser Node := do
  expect .parenOpen
  let e ← wholeExpression recur
  expect .parenClose
  return e

/-- A statement that may be broken off and gone on with. -/
def loopBody (recur : Recur) : Parser Node :=
  within ({ · with admitsBreak := true, admitsContinue := true }) (recur (.statement false))

/-! ## Blocks -/

/-- Statements in braces; a text may not end before the closing one. -/
def blockStatement (recur : Recur) : Parser Node := do
  let start ← pos
  expect .braceOpen
  let stmts ← many do
    if (← isMark .braceClose) || (← token) == .eof then return none
    return some (← recur (.statement true))
  if (← token) == .eof then
    note (← pos) (.expectedToken (Mark.braceClose).text (← token).shown)
  else expect .braceClose
  return .block (← spanFrom start) stmts

/-! ## Variables -/

/-- The kind of variables a word declares. -/
def variableKind? : String → Option VariableKind
  | "var" => some .var
  | "let" => some .let
  | "const" => some .const
  | _ => none

/-- Whether the word `let` declares variables when a token follows it. -/
def followsLet : Token → Bool
  | .mark .braceOpen | .mark .bracketOpen => true
  | .word name => !keywords.contains name
  | _ => false

/-- The kind of variables that a declaration at the current token declares. -/
def atVariables : Parser (Option VariableKind) := do
  match ← token with
  | .word name =>
    match variableKind? name with
    | some .let =>
      let (next, _) ← peek
      return if followsLet next then some .let else none
    | kind => return kind
  | _ => return none

/-- One variable, or a pattern of them, with its first value. -/
def declarator (recur : Recur) (inLoop : Bool) (kind : VariableKind) : Parser Node := do
  let start ← pos
  if kind != .var && (← isWord "let") then
    unexpected "let is reserved in const, let, class declaration"
  let target ← recur .binding
  let t ← token
  let init ← do
    if inLoop && (t.isWord "in" || t.isWord "of") then pure none
    else if ← eatEquals then
      let e ← recur .assignment
      checkDefaults e
      pure (some e)
    else
      if kind == .const && !inLoop then note start .uninitializedConst
      else if !(target matches .ident ..) then failAt start .uninitializedPattern
      pure none
  return .declarator (← spanFrom start) target init

/-- Variables with commas between them; `word` is where their keyword stands. -/
def declarators (recur : Recur) (inLoop : Bool) (kind : VariableKind) (word : Span) :
    Nat → List Node → Parser (List Node)
  | 0, _ => do throw ⟨← pos, .tooDeep⟩
  | fuel + 1, found => do
    if (← isMark .semicolon) || (← token) == .eof then
      let previous := (← get).previous
      note (if previous == word then previous.hi else previous.lo) .trailingComma
      return found
    let admitsIn := kind != .var || !inLoop
    let next ← within ({ · with admitsIn := admitsIn }) (declarator recur inLoop kind)
    if ← eat .comma then declarators recur inLoop kind word fuel (found ++ [next])
    else return found ++ [next]

/-- Passes over tokens up to the end of a statement. -/
def skipStatement : Nat → Parser Unit
  | 0 => pure ()
  | fuel + 1 => do
    if ← eatStatementEnd then return
    bump
    match ← token with
    | .bad f => throw f
    | _ => skipStatement fuel

/-- A declaration of variables; the current token is its keyword. -/
def variableDecl (recur : Recur) (inLoop : Bool) (kind : VariableKind) : Parser Node := do
  let word ← span
  bump
  let decls ← declarators recur inLoop kind word (← bound) []
  if !inLoop then
    if !(← eatStatementEnd) then
      note (← pos) .missingSemicolon
      tryCatch (discard (recur .expression)) fun _ => pure ()
      skipStatement (← bound)
  return .variableDecl (← spanFrom word.lo) kind decls

/-! ## Branches -/

/-- A condition and what is done when it holds. -/
def ifHead (recur : Recur) : Parser Node := do
  let start ← pos
  expectWord "if"
  let test ← parenthesizedHead recur
  let yes ← recur (.statement false)
  return .ifStmt (← spanFrom start) test yes none

/-- A condition read as such, with another thing to do when it does not hold. -/
def withElse (head : Node) (no : Option Node) : Node :=
  match head with
  | .ifStmt span test yes _ => .ifStmt span test yes no
  | node => node

/-- What is done when a condition does not hold. A chain of conditions is read in one go. -/
def elseRest (recur : Recur) : Nat → Parser (Option Node)
  | 0 => do throw ⟨← pos, .tooDeep⟩
  | fuel + 1 => do
    if !(← eatWord "else") then return none
    if !(← isWord "if") then return some (← recur (.statement false))
    let head ← ifHead recur
    return some (withElse head (← elseRest recur fuel))

/-- A condition with all its branches. -/
def ifStatement (recur : Recur) : Parser Node := do
  match ← ifHead recur with
  | .ifStmt span test yes _ =>
    let no ← elseRest recur (← bound)
    return .ifStmt (← spanFrom span.lo) test yes no
  | node => return node

/-- One case of a choice, if there is another; `hasDefault` tells of a default before it. -/
def switchCase (recur : Recur) (hasDefault : Bool) : Parser (Option Node) := do
  let start ← pos
  let test ← do
    if ← eatWord "case" then pure (some (← wholeExpression recur))
    else if ← eatWord "default" then
      if hasDefault then fail .repeatedDefault
      pure none
    else return none
  expect .colon
  let stmts ← many do
    if (← isWord "case") || (← isWord "default") || (← isMark .braceClose) then return none
    return some (← recur (.statement true))
  return some (.switchCase (← spanFrom start) test stmts)

/-- The cases of a choice. -/
def switchCases (recur : Recur) : Nat → Bool → List Node → Parser (List Node)
  | 0, _, _ => do throw ⟨← pos, .tooDeep⟩
  | fuel + 1, hasDefault, found => do
    match ← switchCase recur hasDefault with
    | none => return found
    | some next =>
      let isDefault := next matches .switchCase _ none _
      switchCases recur fuel (hasDefault || isDefault) (found ++ [next])

/-- A choice between cases. -/
def switchStatement (recur : Recur) : Parser Node := do
  let start ← pos
  expectWord "switch"
  let subject ← parenthesizedHead recur
  expect .braceOpen
  let cases ← within ({ · with admitsBreak := true }) do
    switchCases recur (← bound) false []
  expect .braceClose
  return .switchStmt (← spanFrom start) subject cases

/-- What is done with what was thrown, if anything. -/
def catchClause (recur : Recur) : Parser (Option Node) := do
  let start ← pos
  if !(← eatWord "catch") then return none
  let param ← do
    if ← eat .parenOpen then
      let target ← recur .binding
      expect .parenClose
      pure (some target)
    else pure none
  let body ← recur .block
  return some (.catchClause (← spanFrom start) param body)

/-- What is done in any case, if anything. -/
def finallyBlock (recur : Recur) : Parser (Option Node) := do
  if ← eatWord "finally" then return some (← recur .block)
  return none

/-- A block with what is done about what it throws. -/
def tryStatement (recur : Recur) : Parser Node := do
  let start ← pos
  expectWord "try"
  let body ← recur .block
  let stop ← pos
  let handler ← catchClause recur
  let finalizer ← finallyBlock recur
  if handler.isNone && finalizer.isNone then note stop .missingSemicolon
  return .tryStmt (← spanFrom start) body handler finalizer

/-! ## Loops -/

/-- What a `for` loop runs over. -/
inductive LoopHead where
  | steps (init test update : Option Node)
  | keys (left right : Node)
  | elements (left right : Node)

/-- The rest of a head, after what is done first. The semicolon after the test may be missing. -/
def stepsRest (recur : Recur) (init : Option Node) : Parser LoopHead := do
  let test ← do
    if ← eat .semicolon then pure none
    else
      let test ← wholeExpression recur
      let _ ← eat .semicolon
      pure (some test)
  let update ← do
    if ← isMark .parenClose then pure none
    else pure (some (← wholeExpression recur))
  return .steps init test update

/-- The rest of a head that runs over keys or elements, if that is what it does. -/
def eachRest? (recur : Recur) (left : Parser Node) : Parser (Option LoopHead) := do
  if ← isWord "of" then
    let left ← left
    bump
    return some (.elements left (← value recur))
  if ← isWord "in" then
    let left ← left
    bump
    return some (.keys left (← wholeExpression recur))
  return none

/-- Notes the variables of a head that runs over keys or elements: it has one, without a value. -/
def checkLoopVariables (decls : Node) : Parser Node := do
  match decls with
  | .variableDecl _ _ [.declarator span _ (some _)] => note span.lo .initializedLoopVariable
  | .variableDecl _ _ (_ :: rest) => for d in rest do note d.span.lo .severalLoopVariables
  | _ => pure ()
  return decls

/-- The head of a `for` loop, inside its parentheses. -/
def loopHead (recur : Recur) : Parser LoopHead := do
  match ← atVariables with
  | some kind =>
    let decls ← variableDecl recur true kind
    match ← eachRest? recur (checkLoopVariables decls) with
    | some head => return head
    | none =>
      expect .semicolon
      stepsRest recur (some decls)
  | none =>
    if ← eat .semicolon then return ← stepsRest recur none
    let init ← within ({ · with admitsIn := false }) (recur .expression)
    match ← eachRest? recur (toPattern .target init) with
    | some head => return head
    | none =>
      expect .semicolon
      checkDefaults init
      stepsRest recur (some init)

/-- A `for` loop. -/
def forStatement (recur : Recur) : Parser Node := do
  let start ← pos
  expectWord "for"
  let awaitStart ← pos
  let isAwait ← eatWord "await"
  expect .parenOpen
  let head ← within
    (fun c => { c with inLoopHead := true, inAwaitLoopHead := c.inAwaitLoopHead || isAwait })
    (loopHead recur)
  expect .parenClose
  let body ← loopBody recur
  let span ← spanFrom start
  match head with
  | .elements left right => return .forOfStmt span isAwait left right body
  | .keys left right =>
    if isAwait then failAt awaitStart .awaitInPlainFor
    return .forInStmt span left right body
  | .steps init test update =>
    if isAwait then failAt awaitStart .awaitInPlainFor
    return .forStmt span init test update body

/-- A loop that tests first. -/
def whileStatement (recur : Recur) : Parser Node := do
  let start ← pos
  expectWord "while"
  let test ← parenthesizedHead recur
  let body ← loopBody recur
  return .whileStmt (← spanFrom start) test body

/-- A loop that tests last. -/
def doStatement (recur : Recur) : Parser Node := do
  let start ← pos
  expectWord "do"
  let body ← loopBody recur
  expectWord "while"
  let test ← parenthesizedHead recur
  let _ ← eatStatementEnd
  return .doWhileStmt (← spanFrom start) body test

/-! ## Jumps -/

/-- The label a jump names, if any, and the end of the statement. -/
def jumpLabel : Parser (Option Node) := do
  if ← eatStatementEnd then return none
  let label ← identifier
  expectStatementEnd
  return some label

/-- Whether a label is that of an enclosing statement. -/
def isKnownLabel (label : Option Node) : Parser Bool := do
  match label with
  | some (.ident _ name) => return (← get).labels.contains name
  | _ => return true

/-- A jump out of a statement. -/
def breakStatement : Parser Node := do
  let start ← pos
  expectWord "break"
  let label ← jumpLabel
  if !(← isKnownLabel label) then note start .breakUnknownLabel
  else if !(← context).admitsBreak then note start .breakOutside
  return .breakStmt (← spanFrom start) label

/-- A jump to the next turn of a loop. -/
def continueStatement : Parser Node := do
  let start ← pos
  expectWord "continue"
  let label ← jumpLabel
  if !(← context).admitsContinue then note start .continueOutside
  else if !(← isKnownLabel label) then note start .jumpAcrossFunction
  return .continueStmt (← spanFrom start) label

/-- A jump out of a function. -/
def returnStatement (recur : Recur) : Parser Node := do
  let start ← pos
  expectWord "return"
  let arg ← do
    if ← atStatementEnd then pure none
    else pure (some (← wholeExpression recur))
  expectStatementEnd
  let span ← spanFrom start
  if !(← context).inFunction then note start .returnOutsideFunction
  return .returnStmt span arg

/-- A jump to whoever catches a value. -/
def throwStatement (recur : Recur) : Parser Node := do
  let start ← pos
  expectWord "throw"
  if ← afterLineBreak then fail .lineBreakAfterThrow
  let arg ← wholeExpression recur
  expectStatementEnd
  return .throwStmt (← spanFrom start) arg

/-- A statement with a label, after the colon. -/
def labeledRest (recur : Recur) (span : Span) (name : String) : Parser Node := do
  let known := (← get).labels
  let body ← withLabels (known ++ [name]) <| within ({ · with admitsBreak := true }) do
    if ← isWord "function" then
      let function ← functionAny recur false true
      note function.span.lo .labeledFunction
      match function with
      | .functionDef _ isAsync isGenerator _ _ _ =>
        if isAsync || isGenerator then note function.span.lo .labeledGenerator
      | _ => pure ()
      return function
    else recur (.statement false)
  if known.contains name then note span.lo (.repeatedLabel name)
  return .labeledStmt (← spanFrom span.lo) (.ident span name) body

/-! ## The rest -/

/-- An expression that stands alone, or a statement with a label. -/
def expressionStatement (recur : Recur) : Parser Node := do
  let start ← pos
  let e ← wholeExpression recur
  match e with
  | .ident span name =>
    if ← eat .colon then return ← labeledRest recur span name
  | _ => checkDefaults e
  if ← eatStatementEnd then return .exprStmt (← spanFrom start) e
  if (← token).operator?.isSome then
    note (← pos) .missingSemicolon
    let e ← within ({ · with admitsIn := true }) (recur (.binaryRest e 0))
    return .exprStmt (← spanFrom start) e
  fail .expectedStatementEnd

/-- A statement whose scope is changed by an object, which strict code may not hold. -/
def withStatement (recur : Recur) : Parser Node := do
  let start ← pos
  note start .withStatement
  expectWord "with"
  let object ← parenthesizedHead recur
  let body ← within ({ · with inFunction := true }) (recur (.statement false))
  return .withStmt (← spanFrom start) object body

/-- The handlers of a `try` that is not there. -/
def strayHandler (recur : Recur) : Parser Node := do
  let span ← span
  note span.lo .missingSemicolon
  tryCatch (discard (catchClause recur)) fun _ => pure ()
  tryCatch (discard (finallyBlock recur)) fun _ => pure ()
  return .exprStmt span (.invalid span)

/-- An import or an export inside a statement, which only the expressions may be. -/
def nestedModuleDeclaration (recur : Recur) : Parser Node := do
  let start ← pos
  let (next, _) ← peek
  if (← isWord "import") && (next.isMark .parenOpen || next.isMark .dot) then
    let e ← recur .expression
    let _ ← eatStatementEnd
    return .exprStmt (← spanFrom start) e
  fail .moduleDeclarationHere

/-- Whether a name follows the current word on its line. -/
def atNameAfterWord : Parser Bool := do
  let (next, lineBreak) ← peek
  return next.isName && !lineBreak

/-- A declaration of what is disposed of at the end of its block, which is noted: such declarations
are read but not admitted. The current token is its word and `start` is where it begins. -/
def usingDeclaration (recur : Recur) (start : Nat) : Parser Node := do
  let word ← span
  bump
  let _ ← declarators recur false .var word (← bound) []
  note start .usingDeclaration
  expectStatementEnd
  let span ← spanFrom start
  return .exprStmt span (.invalid span)

/-- A statement that begins with the word `await` before the word `using`. -/
def awaitUsing (recur : Recur) : Parser Node := do
  let start ← pos
  let word ← span
  bump
  if ← atNameAfterWord then return ← usingDeclaration recur start
  let e ← awaitRest recur word
  let e ← within ({ · with admitsIn := true }) (recur (.binaryRest e 0))
  let _ ← eatStatementEnd
  return .exprStmt (← spanFrom start) e

/-- A statement that begins with a word. -/
def wordStatement (recur : Recur) (admitsDeclaration : Bool) (name : String) : Parser Node := do
  match name with
  | "import" | "export" => nestedModuleDeclaration recur
  | "break" => breakStatement
  | "continue" => continueStatement
  | "debugger" =>
    let start ← pos
    bump
    expectStatementEnd
    return .debuggerStmt (← spanFrom start)
  | "do" => doStatement recur
  | "for" => forStatement recur
  | "function" =>
    if !admitsDeclaration then note (← pos) .declarationNotAllowed
    functionAny recur false true
  | "class" =>
    if !admitsDeclaration then note (← pos) .declarationNotAllowed
    classFrom recur true
  | "if" => ifStatement recur
  | "return" => returnStatement recur
  | "switch" => switchStatement recur
  | "throw" => throwStatement recur
  | "catch" | "finally" => strayHandler recur
  | "try" => tryStatement recur
  | "with" => withStatement recur
  | "while" => whileStatement recur
  | _ =>
    if admitsDeclaration then
      if name == "using" && (← atNameAfterWord) then return ← usingDeclaration recur (← pos)
      if name == "await" && (← peek).1.isWord "using" then return ← awaitUsing recur
    match ← atVariables with
    | some kind =>
      if kind == .var || admitsDeclaration then return ← variableDecl recur false kind
      expressionStatement recur
    | none =>
      if ← atAsyncFunction then functionAny recur false true
      else expressionStatement recur

/-- A statement. -/
def statement (recur : Recur) (admitsDeclaration : Bool) : Parser Node := do
  match ← token with
  | .mark .braceOpen => recur .block
  | .mark .semicolon =>
    let span ← span
    bump
    return .emptyStmt span
  | .word name => wordStatement recur admitsDeclaration name
  | _ => expressionStatement recur

end ScriptMaps.Syntax.Parser
