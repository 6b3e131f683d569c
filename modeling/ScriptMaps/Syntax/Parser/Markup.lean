import ScriptMaps.Text.CharacterReference
import ScriptMaps.Syntax.Parser.Literal

/-!
# Markup

Elements between angles as expressions. Inside a tag the text is cut into tokens, but names may hold
dashes and strings run to their quote whatever stands between; between tags it is text. So the
tokens of markup are read from the characters again where the two differ, and what ends a tag is
left as the current token: only the caller knows how the text goes on.
-/

namespace ScriptMaps.Syntax.Parser

/-- Whether the text of the current token begins with a character. -/
def atCharacter (c : Char) : Parser Bool := return (← get).here.head? == some c

/-- A word of markup, which goes on after dashes. -/
def markupWord : Parser Node := do
  match ← token with
  | .word name =>
    let (more, after) := (← cursorAfter).span fun c => Text.isIdentifierContinue c || c == '-'
    let name := name ++ String.ofList more
    install (← cursorHere) ⟨.word name, after, []⟩ (← afterLineBreak)
    let span ← span
    bump
    return .keyName span name
  | _ => unexpected "jsx identifier"

/-- A word of markup with the name space before it, if any. -/
def spacedWord : Parser Node := do
  let first ← markupWord
  if ← eat .colon then
    let name ← markupWord
    return .colonName ⟨first.span.lo, name.span.hi⟩ first name
  return first

/-- The words after the dots of a name. -/
def dottedRest : Nat → Node → Parser Node
  | 0, name => return name
  | fuel + 1, name => do
    if ← eat .dot then
      let property ← markupWord
      dottedRest fuel (.dottedName ⟨name.span.lo, property.span.hi⟩ name property)
    else return name

/-- The name of an element. -/
def markupName : Parser Node := do
  match ← spacedWord with
  | .keyName span name => dottedRest (← bound) (.ident span name)
  | name => return name

/-- How the name of an element is written. -/
def markupNameText : Node → String
  | .ident _ name | .keyName _ name => name
  | .dottedName _ object property => markupNameText object ++ "." ++ markupNameText property
  | .colonName _ space name => markupNameText space ++ ":" ++ markupNameText name
  | _ => ""

/-- What braces at `start` hold; the token after the opening brace is the current one, and the
closing brace is at the end. -/
def bracedChild (recur : Recur) (start : Nat) : Parser Node := do
  let close {α : Type} (a : Span → α) : Parser α := do
    if !(← isMark .braceClose) then
      fail (.expectedToken (Mark.braceClose).text (← token).shown)
    return a ⟨start, (← span).hi⟩
  if ← isMark .braceClose then
    return .markupExpr ⟨start, (← span).hi⟩ (.markupEmpty ⟨start + 1, ← pos⟩)
  if ← eat .ellipsis then
    let expr ← recur .expression
    return ← close (.markupSpread · expr)
  let expr ← recur .expression
  close (.markupExpr · expr)

/-- The text between the quotes of an attribute, in which a line feed after a carriage return counts
twice. -/
def attributeText : List Char → List Char
  | '\r' :: '\n' :: rest => '\r' :: '\n' :: '\n' :: attributeText rest
  | c :: rest => c :: attributeText rest
  | [] => []

/-- The value of an attribute, if it has one. A closing quote that at most one character follows is
not passed, since no tag can end there. -/
def attributeValue (recur : Recur) : Parser (Option Node) := do
  if (← token) != .assignment .plain then return none
  let gap := skipGap (← bound) { cursor := ← cursorAfter, lineBreak := false }
  let start := gap.cursor
  match start.rest with
  | quote :: _ =>
    if quote == '"' || quote == '\x27' then
      let (text, stop) := (start.advance 1).span (· != quote)
      if stop.rest.isEmpty then noteAt start.pos .unterminatedString
      let after := if stop.rest.length > 2 then stop.advance 1 else stop
      let value := Text.resolveReferences (attributeText text)
      let raw := start.textTo after
      install start ⟨.str value raw, after, []⟩ gap.lineBreak
      let span ← span
      bump
      return some (.literal span (.str value raw))
  | [] => pure ()
  bump
  if ← isMark .braceOpen then
    let start ← pos
    bump
    let child ← within ({ · with admitsIn := true }) (bracedChild recur start)
    match child with
    | .markupExpr span (.markupEmpty _) => failAt span.lo .emptyAttribute
    | _ =>
      bump
      return some child
  if (← token) == .operator .lt then
    let element ← recur .markup
    bump
    return some element
  fail .attributeValue

/-- An attribute of an element, or attributes spread into it. -/
def markupAttribute (recur : Recur) : Parser Node := do
  let start ← pos
  if ← eat .braceOpen then
    let dotsStart ← pos
    expect .ellipsis
    let dots ← spanFrom dotsStart
    let expr ← value recur
    let span ← spanFrom dotsStart
    expect .braceClose
    return .spreadMember span dots expr
  let name ← spacedWord
  let v ← attributeValue recur
  return .markupAttribute (← spanFrom start) name v

/-- Makes the angle that ends a tag the current token. -/
def closeAngle : Parser Unit := do
  if !(← atCharacter '>') then fail (.expectedToken ">" (← token).shown)
  let start ← cursorHere
  install start ⟨.operator .gt, start.advance 1, []⟩ (← afterLineBreak)

/-- Notes closers that stand in the text between tags. -/
def checkMarkupText (text : List Char) (start : Nat) : Parser Unit := do
  for (c, i) in text.zipIdx do
    if c == '>' || c == '\x7d' then
      noteAt (start + i) (.bareCloser c)

/-- An element or an expression in braces between tags, which begins at a cursor. -/
def markupChild (recur : Recur) (c : Cursor) : Parser Node := do
  let inside := c.advance 1
  if c.startsWith "<" then
    install c ⟨.operator .lt, inside, []⟩ false
    recur .markup
  else
    load inside (some (.mark .braceOpen)) inside.pos false
    within ({ · with admitsIn := true }) (bracedChild recur c.pos)

/-- What stands between the tags of an element from a cursor on; the opening of the closing tag
becomes the current token. A child that cannot be read ends the children before it, and what is
wrong with it is only that no closing tag begins where its reading stopped. -/
def markupChildren (recur : Recur) : Nat → Cursor → List Node → Parser (List Node)
  | 0, c, _ => throw ⟨c.pos, .tooDeep⟩
  | fuel + 1, c, found => do
    let (text, stop) := c.span fun ch => ch != '<' && ch != '\x7b'
    checkMarkupText text c.pos
    let found :=
      if text.isEmpty then found
      else found ++ [.markupText ⟨c.pos, stop.pos⟩ (String.ofList text)]
    match stop.rest with
    | [] =>
      install stop ⟨.eof, stop, []⟩ false
      return found
    | '<' :: '/' :: _ =>
      install stop ⟨.mark .closingAngle, stop.advance 2, []⟩ false
      return found
    | _ =>
      match ← tryCatch (some <$> markupChild recur stop) fun _ => pure none with
      | none => return found
      | some child => markupChildren recur fuel (← cursorAfter) (found ++ [child])

/-- A fragment after its opening angle, which is at `start`. -/
def fragmentRest (recur : Recur) (start : Nat) : Parser Node := do
  closeAngle
  let children ← markupChildren recur (← bound) (← cursorAfter) []
  expect .closingAngle
  closeAngle
  return .fragment ⟨start, (← span).hi⟩ children

/-- An element after its name and attributes; its opening angle is at `start`. -/
def elementRest (recur : Recur) (start : Nat) (name : Node) (attributes : List Node) :
    Parser Node := do
  if ← atCharacter '/' then
    let slash ← cursorHere
    install slash ⟨.operator .div, slash.advance 1, []⟩ false
    bump
    closeAngle
    return .element ⟨start, (← span).hi⟩ name attributes true [] none
  closeAngle
  let children ← markupChildren recur (← bound) (← cursorAfter) []
  let tag ← pos
  expect .closingAngle
  let closing ← markupName
  closeAngle
  let text := markupNameText name
  if markupNameText closing != text then
    bump
    throw ⟨tag, .closingTag text⟩
  return .element ⟨start, (← span).hi⟩ name attributes false children (some closing)

/-- An element or a fragment; the current token is its opening angle and becomes its closing one. -/
def markup (recur : Recur) : Parser Node := do
  let start ← pos
  let here ← cursorHere
  install here ⟨.operator .lt, here.advance 1, []⟩ false
  bump
  if ← atCharacter '>' then return ← fragmentRest recur start
  if !(← token).isAnyWord then fail .expectedExpression
  let name ← markupName
  let attributes ← many do
    if (← atCharacter '>') || (← atCharacter '/') then return none
    return some (← markupAttribute recur)
  elementRest recur start name attributes

end ScriptMaps.Syntax.Parser
