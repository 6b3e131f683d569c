import ScriptMaps.Syntax.Parser.Literal
import ScriptMaps.Syntax.Parser.Class

/-!
# Expressions

From the loosest to the tightest: comma lists, assignments, conditionals, operators between
operands, operators before or after one, calls and members, and the things these begin with.
-/

namespace ScriptMaps.Syntax.Parser

/-! ## Parentheses and arrows -/

/-- Whether an arrow may begin at a position: only where a whole assignment expression begins. -/
def admitsArrow (start : Nat) : Parser Bool := return (← get).arrowStart == some start

/-- The elements in parentheses as the parameters of an arrow. -/
def arrowParameters (items : List Node) (trailingComma : Option Span) : Parser (List Node) := do
  let count := items.length
  let params ← items.zipIdx.mapM fun (item, i) => do
    match item with
    | .spreadArg span dots arg =>
      if i + 1 != count then
        note span.lo .restParameterNotLast
        return .invalid span
      if arg matches .assign .. then note span.lo .restWithDefault
      noteComma trailingComma
      return .restPattern arg.span dots (← toPattern .binding arg)
    | _ => toPattern .binding item
  checkParameters params
  return params

/-- Notes the defaults of the properties of an object, which only a pattern may have. -/
def noteDefaults : Node → Parser Unit
  | .object _ props | .spreadArg _ _ (.object _ props) =>
    props.forM fun
      | .assignedName span _ _ => note span.lo .defaultInObject
      | _ => pure ()
  | _ => pure ()

/-- What parentheses hold as expressions, none of which may be spread. -/
def parenthesized (start : Nat) (items : List Node) : Parser Node := do
  for item in items do
    match item with
    | .spreadArg _ _ arg => failAt arg.span.lo .spreadInParens
    | _ => pure ()
  match items with
  | [] => failAt start .emptyParens
  | [e] => return .paren (← spanFrom start) e
  | first :: _ =>
    let last := items.getLastD first
    return .paren (← spanFrom start) (.sequence ⟨first.span.lo, last.span.hi⟩ items)

/-- The element that stands alone, or the only one spread out. -/
def withoutDots : Node → Node
  | .spreadArg _ _ arg => arg
  | item => item

/-- The arrow after the first element in parentheses, which begins at `start`, if there is one:
where a line ends before its sign, it was not read as part of that element. -/
def lateArrow (recur : Recur) (start : Nat) (item : Node) : Parser (List Node) := do
  if !(← eat .arrow) then return []
  if !(withoutDots item matches .ident ..) then return []
  let params ← arrowParameters [item] none
  let body ← arrowBody recur false params
  return [.arrow (← spanFrom start) false params body]

/-- The elements in parentheses up to the closing one, with the comma that ends them, if one
does. -/
def parensItems (recur : Recur) : Nat → List Node → Parser (List Node × Option Span)
  | 0, _ => do throw ⟨← pos, .tooDeep⟩
  | fuel + 1, found => do
    if ← isMark .parenClose then return (found, none)
    let start ← pos
    let item ← within ({ · with admitsIn := true }) (spreadable recur)
    let late ← if found.isEmpty then lateArrow recur start item else pure []
    let found := found ++ item :: late
    if ← isMark .parenClose then return (found, none)
    expect .comma
    if ← isMark .parenClose then return (found, some (← get).previous)
    parensItems recur fuel found

/-- An arrow whose body is in braces ends there, so that no operator may follow it. -/
def arrowEnd (recur : Recur) (arrow body : Node) : Parser Node := do
  if !(body matches .block ..) || (← token).operator?.isNone then return arrow
  note (← pos) .missingSemicolon
  let e ← recur (.binaryRest arrow 0)
  if !(← isMark .semicolon) then note (← pos) .missingSemicolon
  return e

/-- An expression in parentheses, an arrow, or a call of what is named `async`. -/
def parensOrArrow (recur : Recur) (start : Nat) (async : Option Span) : Parser Node := do
  let mayBeArrow ← admitsArrow start
  expect .parenOpen
  let (items, trailingComma) ← parensItems recur (← bound) []
  expect .parenClose
  if ← isMark .arrow then
    if ← afterLineBreak then failAt start .lineBreakBeforeArrow
    if !mayBeArrow then failAt start .misplacedArrow
    bump
    let params ← arrowParameters items trailingComma
    let body ← arrowBody recur async.isSome params
    return ← arrowEnd recur (.arrow (← spanFrom start) async.isSome params body) body
  items.forM noteDefaults
  match async with
  | some span => return .call (← spanFrom start) (.ident span "async") items
  | none => parenthesized start items

/-! ## What expressions begin with -/

/-- An arrow whose only parameter is a name; the current token is the arrow's sign. -/
def arrowOfName (recur : Recur) (start : Nat) (isAsync : Bool) (name : Node) : Parser Node := do
  expect .arrow
  let body ← arrowBody recur isAsync [name]
  return .arrow (← spanFrom start) isAsync [name] body

/-- Whether the current token is the word before what a loop runs over, and not a parameter. -/
def atLoopElements : Parser Bool := do
  if !(← context).inLoopHead || !(← isWord "of") then return false
  return !(← peek).1.isMark .arrow

/-- An expression that begins with a name. -/
def namedPrimary (recur : Recur) (start : Nat) (mayBeArrow : Bool) : Parser Node := do
  let name ← identifier
  let text := match name with
    | .ident _ text => text
    | _ => ""
  if mayBeArrow && !(← afterLineBreak) then
    if text == "async" && (← token).isName then
      if ← atLoopElements then
        if !(← context).inAwaitLoopHead then note start .asyncLoopVariable
        return name
      let param ← bindingIdentifier
      return ← arrowOfName recur start true param
    if ← isMark .arrow then
      if isRestrictedName text then note start .restrictedBinding
      return ← arrowOfName recur start false name
  return name

/-- A function, an arrow or a call that begins with the word `async`, if the current word does. -/
def asyncPrimary (recur : Recur) (start : Nat) (mayBeArrow : Bool) : Parser Node := do
  let (next, lineBreak) ← peek
  if next.isWord "function" && !lineBreak then return ← functionAny recur true false
  if mayBeArrow && next.isMark .parenOpen && !lineBreak then
    let word ← span
    bump
    return ← parensOrArrow recur start (some word)
  namedPrimary recur start mayBeArrow

/-- An expression that begins with a word. -/
def wordPrimary (recur : Recur) (start : Nat) (mayBeArrow : Bool) (name : String) :
    Parser Node := do
  let span ← span
  let literal (value : Literal) : Parser Node := do
    bump
    return .literal span value
  match name with
  | "this" =>
    bump
    return .thisWord span
  | "null" => literal .null
  | "true" => literal (.bool true)
  | "false" => literal (.bool false)
  | "function" => functionAny recur true false
  | "class" => classFrom recur false
  | "async" => asyncPrimary recur start mayBeArrow
  | _ =>
    if name == "let" || !isReserved name then namedPrimary recur start mayBeArrow
    else fail .expectedExpression

/-- What no operator, call or member stands in front of. -/
def primary (recur : Recur) : Parser Node := do
  refuseBad
  let start ← pos
  let span ← span
  let mayBeArrow ← admitsArrow start
  let literal (value : Literal) : Parser Node := do
    bump
    return .literal span value
  match ← token with
  | .word name => wordPrimary recur start mayBeArrow name
  | .str value raw => literal (.str value raw)
  | .num raw => literal (.num raw)
  | .bigint raw => literal (.bigint raw)
  | .template _ => templateLiteral recur false
  | .operator .div | .assignment (.compound .div) => regexLiteral
  | .mark .bracketOpen => arrayLiteral recur
  | .mark .braceOpen => within ({ · with admitsIn := true }) (objectLiteral recur)
  | .mark .parenOpen => parensOrArrow recur start none
  | .mark .hash =>
    bump
    match ← wordName with
    | .keyName name text => return .privateName ⟨start, name.hi⟩ text
    | node => return node
  | _ => fail .expectedExpression

/-! ## Members and calls -/

/-- The arguments of a call. -/
def arguments (recur : Recur) : Parser (List Node) := do
  expect .parenOpen
  let args ← many do
    if ← isMark .parenClose then return none
    let arg ← within ({ · with admitsIn := true }) (spreadable recur)
    if !(← isMark .parenClose) then expect .comma
    return some arg
  expect .parenClose
  return args

/-- A member of an object, which belongs to an optional chain if the object does. -/
def memberOf (object : Node) (isOptional : Bool) (property : Node) : Parser Node := do
  let span ← spanFrom object.span.lo
  if isOptional || isChain object then return .chainMember span isOptional object property
  return .member span object property

/-- Refuses a member of `super` where there is none. -/
def checkSuper (object : Node) (isOptional noCall : Bool) : Parser Unit := do
  match object with
  | .superWord span =>
    if !(← context).admitsSuper then failAt span.lo .misplacedSuper
    if isOptional then
      failAt span.lo (if noCall then .misplacedSuperCall else .misplacedSuper)
  | _ => pure ()

/-- A call, which belongs to an optional chain if the callee does. -/
def callOf (recur : Recur) (callee : Node) (isOptional : Bool) : Parser Node := do
  let args ← arguments recur
  let span ← spanFrom callee.span.lo
  if isOptional || isChain callee then
    match callee with
    | .superWord _ => fail .optionalSuperCall
    | _ => return .chainCall span isOptional callee args
  return .call span callee args

/-- A name after a dot, which may be private. -/
def memberName (object : Node) : Parser Node := do
  if !(← isMark .hash) then return ← wordName
  let name ← privateName
  match object with
  | .superWord _ => fail .misplacedSuperCall
  | _ => return name

/-- Passes the two marks of a link that may be left out, if they come next. -/
def eatChain : Parser Bool := do
  if !(← isMark .question) then return false
  let (next, _) ← peek
  if !next.isMark .dot then return false
  bump
  eat .dot

/-- One member, call or template after an expression, if there is one. -/
def subscript (recur : Recur) (noCall : Bool) (object : Node) : Parser (Option Node) := do
  let isOptional ← eatChain
  if ← isMark .bracketOpen then
    let start ← pos
    bump
    let expr ← within ({ · with admitsIn := true }) (recur .expression)
    expect .bracketClose
    let key := Node.computedKey (← spanFrom start) expr
    checkSuper object isOptional noCall
    return some (← memberOf object isOptional key)
  if (isOptional || !noCall) && (← isMark .parenOpen) then
    return some (← callOf recur object isOptional)
  if ← (if isOptional then pure true else eat .dot) then
    let key ← memberName object
    checkSuper object isOptional noCall
    return some (← memberOf object isOptional key)
  match object with
  | .superWord _ => fail (if noCall then .misplacedSuperCall else .misplacedSuper)
  | _ =>
    if ← atTemplate then
      let template ← templateLiteral recur true
      if isChain object then note object.span.lo .templateInChain
      return some (.taggedTemplate (← spanFrom object.span.lo) object template)
    return none

/-- An expression with the members, calls and templates after it. -/
def subscripts (recur : Recur) (noCall : Bool) : Nat → Node → Parser Node
  | 0, object => return object
  | fuel + 1, object => do
    match ← subscript recur noCall object with
    | some next => subscripts recur noCall fuel next
    | none => return object

/-- An expression with all the members, calls and templates after it. -/
def withSubscripts (recur : Recur) (noCall : Bool) (object : Node) : Parser Node := do
  subscripts recur noCall (← bound) object

/-- The import of a module as an expression, after its words, which begin at `start`. -/
def importCall (recur : Recur) (noCall : Bool) (start : Nat) (phase : Option ImportPhase) :
    Parser Node := do
  let word := Node.importWord (← spanFrom start) phase
  if !(← isMark .parenOpen) then fail .misplacedImport
  let args ← arguments recur
  if args.isEmpty || args.length > 2 then note start .importArguments
  withSubscripts recur noCall (.call (← spanFrom start) word args)

/-- An import in an expression: of a module, or of what is known about this one. -/
def importExpression (recur : Recur) (noCall : Bool) : Parser Node := do
  let start ← pos
  expectWord "import"
  if !(← eat .dot) then return ← importCall recur noCall start none
  match ← wordName with
  | .keyName _ "meta" => withSubscripts recur noCall (.importMeta (← spanFrom start))
  | .keyName _ name =>
    match ImportPhase.ofWord? name with
    | some phase => importCall recur noCall start (some phase)
    | none => unexpected "meta"
  | _ => unexpected "meta"

/-- Whether an expression is a link of an optional chain that may be left out itself. -/
def isOptionalLink : Node → Bool
  | .chainMember _ isOptional _ _ | .chainCall _ isOptional _ _ => isOptional
  | _ => false

/-- An expression after the word `new`, which stands at `start`. -/
def constructRest (recur : Recur) (start : Nat) : Parser Node := do
  if ← eat .dot then
    if !(← eatWord "target") then unexpected "target"
    let c ← context
    let target := Node.newTarget (← spanFrom start)
    if !c.hasOwnThis && !c.inParameters && !c.inClass then note start .newTargetOutside
    return ← withSubscripts recur true target
  let callee ← recur .constructOrMember
  if callee matches .arrow .. then return callee
  if isOptionalLink callee then failAt callee.span.lo .chainAfterNew
  if ← isMark .parenOpen then
    let args ← arguments recur
    return ← withSubscripts recur true (.construct (← spanFrom start) callee true args)
  return .construct (← spanFrom start) callee false []

/-- A construction, or an expression with members but no calls after it. -/
def constructOrMember (recur : Recur) : Parser Node := do
  let start ← pos
  if ← eatWord "new" then return ← constructRest recur start
  if ← isWord "super" then
    let span ← span
    bump
    return ← withSubscripts recur true (.superWord span)
  if ← isWord "import" then return ← importExpression recur true
  let object ← primary recur
  if object matches .arrow .. then return object
  withSubscripts recur true object

/-- Whether markup begins at the current token. -/
def atMarkup : Parser Bool := do
  if (← get).hasMarkup && (← token) == .operator .lt then
    let (next, _) ← peek
    return !(next.isMark .bang || next == .operator .div)
  return false

/-- An expression that an operator may stand before or after. -/
def leftHandSide (recur : Recur) : Parser Node := do
  if ← atMarkup then
    let e ← recur .markup
    bump
    return e
  if ← isWord "super" then
    let span ← span
    bump
    return ← withSubscripts recur false (.superWord span)
  if ← isWord "import" then return ← importExpression recur false
  let callee ← recur .constructOrMember
  match callee with
  | .arrow .. => return callee
  | .construct _ _ false _ => return callee
  | _ =>
    if ← isMark .parenOpen then
      let call ← callOf recur callee false
      withSubscripts recur false call
    else return callee

/-! ## Operators -/

/-- The sign of an operator before an operand, if a token is one. -/
def unaryOp? : Token → Option UnaryOp
  | .operator .sub => some .minus
  | .operator .add => some .plus
  | .mark .bang => some .not
  | .mark .tilde => some .bitNot
  | .word "typeof" => some .typeof
  | .word "void" => some .void
  | .word "delete" => some .delete
  | _ => none

/-- The sign of a step, if a token is one. -/
def updateOp? : Token → Option UpdateOp
  | .mark .plusPlus => some .increment
  | .mark .minusMinus => some .decrement
  | _ => none

/-- The operator between two operands that a token is in the given surroundings. -/
def binaryOp? (c : Context) : Token → Option BinaryOp
  | .operator op => some op
  | .word "in" => if c.admitsIn then some .isIn else none
  | .word "instanceof" => some .instanceOf
  | _ => none

/-- An expression that waits, after its word. -/
def awaitRest (recur : Recur) (word : Span) : Parser Node := do
  if (← token) == .operator .mul then fail .awaitStar
  let c ← context
  let isAlone := (← atStatementEnd) || (← isMark .parenClose) || (← isMark .bracketClose)
    || (← isMark .comma)
  if !c.inAsync && isAlone then
    note word.lo .awaitAsIdentifier
    return .ident word "await"
  if c.inFunction && !c.inAsync then note word.lo .awaitOutsideAsync
  if c.inParameters && !c.inFunction then note word.lo .awaitInParameter
  let arg ← recur .unary
  return .awaitExpr (← spanFrom word.lo) arg

/-- The operand of an operator, if need be one that stands for a text that is none. -/
def operand (recur : Recur) : Parser Node := do
  let start ← pos
  tryCatch (recur .unary) fun fault => do
    note fault.pos fault.cause
    return .invalid ⟨start - 1, start - 1⟩

/-- An expression with an operator before or after it, or without. -/
def unary (recur : Recur) : Parser Node := do
  let start ← pos
  let t ← token
  match updateOp? t, unaryOp? t with
  | some op, _ =>
    bump
    let arg ← recur .unary
    checkTarget arg
    return .update ⟨start, arg.span.hi⟩ op true arg
  | none, some op =>
    bump
    let arg ← operand recur
    match op, arg with
    | .delete, .ident span _ => note span.lo .deleteIdentifier
    | _, _ => pure ()
    return .unary ⟨start, arg.span.hi⟩ op arg
  | none, none =>
    if t.isWord "await" then
      let word ← span
      bump
      return ← awaitRest recur word
    let e ← recur .leftHandSide
    if (e matches .arrow ..) || (← afterLineBreak) then return e
    match updateOp? (← token) with
    | some op =>
      checkTarget e
      bump
      return .update (← spanFrom e.span.lo) op false e
    | none => return e

/-- Whether an expression may not stand next to `??` without parentheses. -/
def isLogical : Node → Bool
  | .binary _ .and _ _ | .binary _ .or _ _ => true
  | _ => false

/-- Notes `??` beside `&&` or `||`. -/
def checkCoalescing (op : BinaryOp) (left right whole : Node) : Parser Unit := do
  if op == .coalesce then
    if isLogical left then note left.span.lo .mixedCoalescing
    if isLogical right then note right.span.lo .mixedCoalescing
  else if isLogical whole then
    match left with
    | .binary _ .coalesce _ _ => note whole.span.lo .mixedCoalescing
    | _ => pure ()

/-- The operators after a left operand that bind tighter than `least`. -/
def binaryRest (recur : Recur) (left : Node) (least : Nat) : Parser Node := do
  match binaryOp? (← context) (← token) with
  | none => return left
  | some op =>
    if op.precedence ≤ least then return left
    bump
    match op, left with
    | .pow, .unary .. | .pow, .awaitExpr .. => fail .unaryBeforePower
    | _, _ => pure ()
    let right ← recur .unary
    let tightest := if op == .pow then op.precedence - 1 else op.precedence
    let right ← recur (.binaryRest right tightest)
    let whole := Node.binary ⟨left.span.lo, right.span.hi⟩ op left right
    checkCoalescing op left right whole
    recur (.binaryRest whole least)

/-- Operands with operators between them. -/
def binary (recur : Recur) : Parser Node := do
  let left ← tryCatch (recur .unary) fun fault => do
    refuseBad
    if (binaryOp? (← context) (← token)).isNone then throw fault
    note (← pos) .expectedExpression
    return .invalid ⟨fault.pos, fault.pos⟩
  if left matches .arrow .. then return left
  recur (.binaryRest left 0)

/-- A choice between two expressions, or one without a choice. -/
def conditional (recur : Recur) : Parser Node := do
  let start ← pos
  let test ← binary recur
  if test matches .arrow .. then return test
  if ← eat .question then
    let yes ← value recur
    expect .colon
    let no ← recur .assignment
    return .conditional ⟨start, no.span.hi⟩ test yes no
  return test

/-! ## Assignments -/

/-- An expression that hands a value out of a generator. -/
def yieldExpression (recur : Recur) : Parser Node := do
  let start ← pos
  bump
  let c ← context
  if c.inParameters && !c.inFunction then failAt start .yieldInParameter
  let t ← token
  let isDelegate := t == .operator .mul
  if (← atStatementEnd) || !(isDelegate || t.startsExpression) then
    return .yieldExpr (← spanFrom start) false none
  if isDelegate then bump
  let arg ← recur .assignment
  return .yieldExpr (← spanFrom start) isDelegate (some arg)

/-- Whether a value can be stored in what an expression was read as. -/
def isTargetForm : Node → Bool
  | .ident .. | .member .. | .chainMember .. | .chainCall .. | .paren .. => true
  | _ => false

/-- An assignment after its left side, if there is one. -/
def assignmentRest (recur : Recur) (start : Nat) (left : Node) : Parser Node := do
  match ← token with
  | .assignment op =>
    let target ← do
      if op == .plain then
        let target ← toPattern .target left
        let fits := match target with
          | .arrayPattern .. | .objectPattern .. | .invalid _ => true
          | _ => isTargetForm target
        if !fits then failAt target.span.lo .invalidTarget
        pure target
      else
        if !isAssignable left then note left.span.lo .unassignable
        if !isTargetForm left then failAt left.span.lo .invalidTarget
        pure left
    bump
    let right ← recur .assignment
    return .assign (← spanFrom start) op target right
  | _ => return left

/-- Whether an arrow may begin with a token. -/
def mayBeginArrow : Token → Bool
  | .mark .parenOpen => true
  | .word name => !isReserved name || name == "yield"
  | _ => false

/-- An assignment, an arrow, a `yield`, or anything that binds tighter. -/
def assignment (recur : Recur) : Parser Node := do
  if (← context).inGenerator && (← isWord "yield") then return ← yieldExpression recur
  let start ← pos
  if mayBeginArrow (← token) then modify fun s => { s with arrowStart := some start }
  let e ← conditional recur
  match e with
  | .arrow .. | .conditional .. | .binary .. | .unary .. | .update .. => return e
  | _ => assignmentRest recur start e

/-- Expressions with commas between them. -/
def expression (recur : Recur) : Parser Node := do
  let first ← recur .assignment
  if !(← isMark .comma) then return first
  let more ← many do
    if ← eat .comma then return some (← recur .assignment)
    return none
  return .sequence (← spanFrom first.span.lo) (first :: more)

end ScriptMaps.Syntax.Parser
