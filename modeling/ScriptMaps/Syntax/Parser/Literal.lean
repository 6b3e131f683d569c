import ScriptMaps.Syntax.Parser.Function

/-!
# Literals with parts

Templates, regular expressions, arrays and objects. The texts of a template and a regular expression
are read from the characters, since what a closing brace or a slash begins depends on the place.
-/

namespace ScriptMaps.Syntax.Parser

/-! ## Templates -/

/-- A text in which every line ends with a line feed. -/
def withLineFeeds : List Char → List Char
  | '\r' :: '\n' :: rest => '\n' :: withLineFeeds rest
  | '\r' :: rest => '\n' :: withLineFeeds rest
  | c :: rest => c :: withLineFeeds rest
  | [] => []

/-- The parts of a template from the place after its opening on; what follows its end becomes the
current token. What was passed over in the first text is noted already. -/
def templateParts (recur : Recur) (start : Nat) (isTagged : Bool) :
    Nat → Cursor → List Node → Parser (List Node)
  | 0, c, _ => throw ⟨c.pos, .tooDeep⟩
  | fuel + 1, c, found => do
    match templateText c.rest with
    | none => throw ⟨start, .unterminatedTemplate⟩
    | some text =>
      let stop := c.advance text.length
      let (passed, invalid) := templateFaults (text.length + 1) ⟨text, c.pos⟩
      if !found.isEmpty then passed.forM fun f => noteAt f.pos f.cause
      match invalid with
      | some f => if !isTagged then throw f
      | none => pure ()
      let part : Node := .templatePart ⟨c.pos, stop.pos⟩ (String.ofList (withLineFeeds text))
      if stop.startsWith "`" then
        install stop ⟨.mark .backquote, stop.advance 1, []⟩ false
        bump
        return found ++ [part]
      let opened := stop.advance 2
      load opened (some (.mark .parenOpen)) opened.pos false
      let expr ← within ({ · with admitsIn := true }) (recur .expression)
      if !(← isMark .braceClose) then
        fail (.expectedToken (Mark.braceClose).text (← token).shown)
      templateParts recur start isTagged fuel (← cursorAfter) (found ++ [part, expr])

/-- Whether the current token is the opening of a template. -/
def atTemplate : Parser Bool := return (← token) matches .template _

/-- A template; the current token is its opening. -/
def templateLiteral (recur : Recur) (isTagged : Bool) : Parser Node := do
  let start ← pos
  let parts ← templateParts recur start isTagged (← bound) ((← cursorHere).advance 1) []
  return .template (← spanFrom start) parts

/-! ## Regular expressions -/

/-- The flags a regular expression may have. -/
def regexFlags : List Char := ['d', 'g', 'i', 'm', 's', 'u', 'v', 'y']

/-- The first flag that occurs again. -/
def repeatedFlag? : List Char → Option Char
  | [] => none
  | c :: rest => if rest.contains c then some c else repeatedFlag? rest

/-- A regular expression; the current token begins with its opening slash. One that does not end is
noted, and then there is no expression. -/
def regexLiteral : Parser Node := do
  let start ← cursorHere
  install start (readRegex (← bound) start) (← afterLineBreak)
  let span ← span
  match ← token with
  | .regex body flags =>
    let flagList := flags.toList
    if flagList.any (!regexFlags.contains ·) then note span.lo .unknownRegexFlags
    match repeatedFlag? (flagList.filter regexFlags.contains) with
    | some flag => note span.lo (.repeatedRegexFlag flag)
    | none => pure ()
    bump
    return .literal span (.regex body flags)
  | _ =>
    note span.lo .expectedExpression
    throw ⟨span.lo, .expectedExpression⟩

/-! ## Arrays and objects -/

/-- An expression, or one whose elements are spread out. -/
def spreadable (recur : Recur) : Parser Node := do
  let start ← pos
  if ← eat .ellipsis then
    let dots ← spanFrom start
    let expr ← value recur
    return .spreadArg ⟨start, expr.span.hi⟩ dots expr
  recur .assignment

/-- Remembers the comma that ends the elements of an array or an object. -/
def rememberComma (start : Nat) : Parser Unit :=
  modify fun s => { s with trailingCommas := (start, s.previous) :: s.trailingCommas }

/-- An element of an array, if there is one. -/
def arrayElement (recur : Recur) (start : Nat) : Parser (Option Node) := do
  if ← isMark .bracketClose then return none
  if ← eat .comma then return some .hole
  let elem ← within ({ · with admitsIn := true }) (spreadable recur)
  if ← isMark .bracketClose then return some elem
  expect .comma
  if ← isMark .bracketClose then rememberComma start
  return some elem

/-- An array. -/
def arrayLiteral (recur : Recur) : Parser Node := do
  let start ← pos
  expect .bracketOpen
  let elems ← many (arrayElement recur start)
  expect .bracketClose
  return .array (← spanFrom start) elems

/-- A method of an object, after its key. -/
def objectMethodRest (recur : Recur) (start : Nat) (isAsync isGenerator : Bool) (key : Node) :
    Parser Node := do
  let (params, body) ← within ({ · with admitsSuper := true, inClassField := false })
    (functionTail recur isAsync isGenerator)
  return .objectMethod (← spanFrom start) isAsync isGenerator key params body

/-- An accessor of an object, after its key. -/
def objectAccessorRest (recur : Recur) (start : Nat) (isGetter : Bool) (key : Node) :
    Parser Node := do
  let check := if isGetter then checkGetter key.span.lo else checkSetter key.span.lo
  let (params, body) ← within ({ · with admitsSuper := true, inClassField := false })
    (functionTail recur false false check)
  let span ← spanFrom start
  if isGetter then return .objectGetter span key body
  match params with
  | .param _ pattern :: _ => return .objectSetter span key pattern body
  | _ => return .objectSetter span key (.invalid .nowhere) body

/-- A property of an object. -/
def objectMember (recur : Recur) : Parser Node := do
  let start ← pos
  if ← eat .ellipsis then
    let dots ← spanFrom start
    let expr ← value recur
    return .spreadMember (← spanFrom start) dots expr
  if (← token) == .operator .mul then
    bump
    let key ← propertyName recur
    return ← objectMethodRest recur start false true key
  let key ← propertyName recur
  if ← eat .colon then
    let v ← value recur
    return .property ⟨key.span.lo, v.span.hi⟩ key v
  if ← isMark .parenOpen then return ← objectMethodRest recur start false false key
  match key with
  | .keyName span name =>
    let ident := Node.ident span name
    if (← token) == .assignment .plain || (← isMark .comma) || (← isMark .braceClose) then
      if isReserved name then note span.lo .reservedShorthand
      if ← eatEquals then
        let v ← value recur
        return .assignedName (← spanFrom start) ident v
      return ident
    match name with
    | "get" => objectAccessorRest recur start true (← propertyName recur)
    | "set" => objectAccessorRest recur start false (← propertyName recur)
    | "async" =>
      let isGenerator := (← token) == .operator .mul
      if isGenerator then bump
      let key ← propertyName recur
      objectMethodRest recur start true isGenerator key
    | _ => unexpected "... , *,  (, [, :, , ?, = or an identifier"
  | _ => unexpected "identifier"

/-- An object. -/
def objectLiteral (recur : Recur) : Parser Node := do
  let start ← pos
  expect .braceOpen
  let props ← many do
    if ← eat .braceClose then return none
    let prop ← objectMember recur
    if !(← isMark .braceClose) then
      expect .comma
      if ← isMark .braceClose then rememberComma start
    return some prop
  return .object (← spanFrom start) props

end ScriptMaps.Syntax.Parser
