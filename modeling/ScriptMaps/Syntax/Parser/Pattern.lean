import ScriptMaps.Syntax.Parser.Name

/-!
# Patterns

What a value can be taken apart with: patterns written as such, and expressions read again as
patterns once an arrow or an assignment shows that they were meant so.
-/

namespace ScriptMaps.Syntax.Parser

/-! ## Patterns written as such -/

/-- An assignment expression in which `in` is an operator. -/
def value (recur : Recur) : Parser Node :=
  within ({ · with admitsIn := true }) (recur .assignment)

/-- A pattern with an optional default value. -/
def bindingElement (recur : Recur) : Parser Node := do
  let start ← pos
  let left ← recur .binding
  if ← eatEquals then
    let right ← value recur
    return .defaultPattern (← spanFrom start) left right
  return left

/-- The pattern after the dots of a rest element, which begin at a position. -/
def restBinding (recur : Recur) (start : Nat) : Parser Node := do
  let dots ← spanFrom start
  let target ← recur .binding
  return .restPattern (← spanFrom start) dots target

/-- The elements of an array pattern; `rest` tells where one before them takes the rest. -/
def arrayBindingElements (recur : Recur) : Nat → Option Nat → List Node → Parser (List Node)
  | 0, _, _ => do throw ⟨← pos, .tooDeep⟩
  | fuel + 1, rest, found => do
    if ← isMark .bracketClose then return found.reverse
    if ← eat .comma then return ← arrayBindingElements recur fuel rest (.hole :: found)
    match rest with
    | some rest => note rest .restNotLast
    | none => pure ()
    let start ← pos
    let isRest ← eat .ellipsis
    let elem ← if isRest then restBinding recur start else bindingElement recur
    let comma ← pos
    if !(← isMark .bracketClose) then
      expect .comma
      if isRest && (← isMark .bracketClose) then note comma .commaAfterRest
    arrayBindingElements recur fuel (if isRest then some start else rest) (elem :: found)

/-- An array pattern. -/
def arrayBinding (recur : Recur) : Parser Node := do
  let start ← pos
  expect .bracketOpen
  let elems ← arrayBindingElements recur (← bound) none []
  expect .bracketClose
  return .arrayPattern (← spanFrom start) elems

/-- One property of an object pattern. -/
def propertyBinding (recur : Recur) : Parser Node := do
  let start ← pos
  if ← eat .ellipsis then return ← restBinding recur start
  let key ← propertyName recur
  if ← eat .colon then
    let target ← bindingElement recur
    return .propertyPattern ⟨key.span.lo, target.span.hi⟩ key target
  match key with
  | .keyName span name =>
    if ← eatEquals then
      let right ← value recur
      return .namePattern (← spanFrom start) (.ident span name) (some right)
    if isReserved name then note span.lo .reservedShorthand
    return .namePattern (← spanFrom start) (.ident span name) none
  | _ => unexpected "an identifier"

/-- Notes the properties that take the rest where they may not: only the last may, with a name and
without a comma after it. -/
def checkObjectRest (comma : Option Nat) : List Node → Parser Unit
  | [] => pure ()
  | [.restPattern span _ target] => do
    if !(target matches .ident ..) then failAt span.lo .restWithoutName
    match comma with
    | some comma => note comma .commaAfterRest
    | none => pure ()
  | prop :: more => do
    match prop with
    | .restPattern span _ _ => note span.lo .restNotLast
    | _ => pure ()
    checkObjectRest comma more

/-- An object pattern. -/
def objectBinding (recur : Recur) : Parser Node := do
  let start ← pos
  expect .braceOpen
  let props ← many do
    if ← eat .braceClose then return none
    let prop ← propertyBinding recur
    if ← isMark .braceClose then return some (prop, none)
    let comma ← pos
    expect .comma
    return some (prop, if ← isMark .braceClose then some comma else none)
  checkObjectRest (props.getLast?.bind (·.2)) (props.map (·.1))
  return .objectPattern (← spanFrom start) (props.map (·.1))

/-- A name, an array pattern or an object pattern. -/
def binding (recur : Recur) : Parser Node := do
  refuseBad
  match ← token with
  | .word _ => bindingIdentifier
  | .mark .bracketOpen => arrayBinding recur
  | .mark .braceOpen => objectBinding recur
  | _ => unexpected "yield, an identifier, [ or \x7b"

/-! ## Expressions read again -/

/-- What a pattern is for: introducing names or storing values, as a whole or as an element. -/
inductive PatternUse where
  | binding
  | bindingElement
  | target
  | targetElement
  deriving DecidableEq, Inhabited

/-- The use of the elements of a pattern. -/
def PatternUse.element : PatternUse → PatternUse
  | .binding | .bindingElement => .bindingElement
  | .target | .targetElement => .targetElement

/-- Whether a value can be stored where an expression says. -/
def isAssignable : Node → Bool
  | .ident _ name => !isRestrictedName name
  | .paren _ e => isAssignable e
  | .member _ object _ =>
    match object with
    | .member .. => isAssignable object
    | .chainMember .. | .chainCall .. => false
    | _ => true
  | _ => false

/-- Notes that nothing can be stored where an expression says. -/
def checkTarget (e : Node) : Parser Unit := do
  if !isAssignable e then note e.span.lo .notAssignable

/-- Notes that an expression is no pattern. -/
def refusePattern (e : Node) : Parser Node := do
  note e.span.lo .notPattern
  return .invalid e.span

/-- The comma, if any, that ends the elements of an array or an object. -/
def trailingComma? (e : Node) : Parser (Option Span) := do
  return ((← get).trailingCommas.find? (·.1 == e.span.lo)).map (·.2)

/-- Notes the comma after a rest element. -/
def noteComma (comma : Option Span) : Parser Unit := do
  match comma with
  | some comma => note comma.lo .commaAfterRest
  | none => pure ()

/-- Reads an expression again as a pattern. -/
def asPattern : Nat → PatternUse → Node → Parser Node
  | 0, _, e => return e
  | fuel + 1, use, e => do
    let inner := asPattern fuel use.element
    /- Arrays, objects and defaults are taken apart. -/
    let takeApart : Parser Node := do
      match e with
      | .ident .. => return e
      | .assign span .plain left right =>
        let target ← do
          match left with
          | .arrayPattern .. | .objectPattern .. => pure left
          | _ => asPattern fuel use left
        return .defaultPattern span target right
      | .array span elems =>
        let count := (elems.reverse.dropWhile fun x => x matches .hole).length
        let isFull := count == elems.length
        let pats ← (elems.take count).zipIdx.mapM fun (x, i) => do
          match x with
          | .hole => return Node.hole
          | .spreadArg s dots arg =>
            if !(isFull && i + 1 == count) then
              note s.lo .restNotLast
              return .invalid s
            if arg matches .assign .. then note s.lo .restWithDefault
            noteComma (← trailingComma? e)
            return .restPattern arg.span dots (← inner arg)
          | _ => inner x
        return .arrayPattern span pats
      | .object span props =>
        let count := props.length
        let pats ← props.zipIdx.mapM fun (x, i) => do
          match x with
          | .ident s _ => return Node.namePattern s x none
          | .property s key v => return .propertyPattern s key (← inner v)
          | .assignedName s key v => return .namePattern s key (some v)
          | .spreadMember s dots arg =>
            if i + 1 != count then note s.lo .restNotLast
            else noteComma (← trailingComma? e)
            if use.element == .bindingElement && !(arg matches .ident ..) then
              note s.lo .restWithoutName
              return .restPattern s dots (.invalid s)
            let target ← inner arg
            if target matches .defaultPattern .. then note s.lo .restWithDefault
            return .restPattern s dots target
          | _ => failAt x.span.lo .notPattern
        return .objectPattern span pats
      | _ => refusePattern e
    match use with
    | .target =>
      match e with
      | .array .. | .object .. => takeApart
      | _ =>
        checkTarget e
        return e
    | .targetElement =>
      match e with
      | .array .. | .object .. | .assign .. => takeApart
      | .member .. | .call .. | .construct .. | .literal .. | .ident .. | .functionDef ..
      | .classDef .. | .paren .. | .template .. =>
        if !isAssignable e then note e.span.lo .unassignable
        return e
      | _ => refusePattern e
    | _ => takeApart

/-- Reads an expression again as a pattern. -/
def toPattern (use : PatternUse) (e : Node) : Parser Node := do
  asPattern (← bound) use e

/-- The names a pattern binds that strict code may not bind. -/
def restrictedNames : Nat → Node → List Span
  | 0, _ => []
  | fuel + 1, pattern =>
    match pattern with
    | .ident span name => if isRestrictedName name then [span] else []
    | .namePattern _ key _ => restrictedNames fuel key
    | .propertyPattern _ _ target | .restPattern _ _ target | .defaultPattern _ target _ =>
      restrictedNames fuel target
    | .arrayPattern _ parts | .objectPattern _ parts => parts.flatMap (restrictedNames fuel)
    | _ => []

/-- Notes parameters that bind a restricted name. -/
def checkParameters (params : List Node) : Parser Unit := do
  for span in params.flatMap (restrictedNames (← bound)) do
    note span.lo .restrictedBinding

/-- Whether parameters are plain names. -/
def areSimple (params : List Node) : Bool :=
  params.all fun
    | .ident .. | .param _ (.ident ..) => true
    | _ => false

end ScriptMaps.Syntax.Parser
