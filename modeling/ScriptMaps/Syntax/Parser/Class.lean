import ScriptMaps.Syntax.Parser.Function

/-!
# Classes

A class is a name, a class it extends, and members: methods, accessors, fields and static blocks.
-/

namespace ScriptMaps.Syntax.Parser

/-- Whether the key of a member is that of the constructor. -/
def isConstructorKey : Node → Bool
  | .keyName _ name => name == "constructor"
  | .literal _ (.str value _) => value == "constructor".toList.map Char.toNat
  | _ => false

/-- The key of a class member, which may be private. -/
def memberKey (recur : Recur) : Parser Node := do
  if ← isMark .hash then
    let key ← privateName
    match key with
    | .privateName span "constructor" => note span.lo .privateConstructor
    | _ => pure ()
    return key
  propertyName recur

/-- Whether a member whose key was read is a field; a line end counts if `understood`. -/
def atFieldRest (understood : Bool) : Parser Bool := do
  let t ← token
  if t == .assignment .plain || t.isMark .braceClose then return true
  if understood then atStatementEnd else return t.isMark .semicolon

/-- The rest of a field, after its key. -/
def fieldRest (recur : Recur) (start : Nat) (isStatic : Bool) (key : Node) : Parser Node := do
  if isConstructorKey key then failAt key.span.lo .constructorField
  within ({ · with inClassField := true, admitsIn := true }) do
    let init ← do
      if ← eatEquals then pure (some (← recur .assignment))
      else pure none
    if !(← eatStatementEnd) then note (← pos) .missingSemicolon
    return .field (← spanFrom start) isStatic key init

/-- The rest of a method, after its key. -/
def methodRest (recur : Recur) (start : Nat) (isStatic : Bool) (kind : MethodKind)
    (isAsync isGenerator : Bool) (key : Node)
    (check : List Node → Parser Unit := fun _ => pure ()) : Parser Node := do
  let (params, body) ← within ({ · with admitsSuper := true, inClassField := false })
    (functionTail recur isAsync isGenerator check)
  return .classMethod (← spanFrom start) isStatic kind isAsync isGenerator key params body

/-- The parameters and the body of a constructor. Its parameters stand in the surroundings of the
class: what waits or hands out values there may do so here. -/
def constructorTail (recur : Recur) : Parser (List Node × Node) :=
  within ({ · with admitsSuper := true, inClassField := false }) do
    expect .parenOpen
    let params ← formalParameters recur false
    expect .parenClose
    let body ← functionBody recur false false params
    return (params, body)

/-- The word of an accessor, if a key is one. -/
def accessorWord? : Node → Option MethodKind
  | .keyName _ "get" => some .getter
  | .keyName _ "set" => some .setter
  | _ => none

/-- A member after the word `static`, if it has one. -/
def memberRest (recur : Recur) (start : Nat) (isStatic : Bool) : Parser Node := do
  if isStatic && (← isMark .braceOpen) then
    let body ← within ({ · with inStaticBlock := true, inClassField := true, admitsSuper := true })
      (recur .block)
    return .staticBlock (← spanFrom start) body
  if (← token) == .operator .mul then
    bump
    let key ← memberKey recur
    if isConstructorKey key then note start .generatorConstructor
    return ← methodRest recur start isStatic .method false true key
  let key ← memberKey recur
  if ← isMark .parenOpen then
    if !isStatic && isConstructorKey key then
      let (params, body) ← constructorTail recur
      return .classConstructor (← spanFrom start) params body
    return ← methodRest recur start isStatic .method false false key
  let startsGenerator := (← afterLineBreak) && (← token) == .operator .mul
  let accessor? := if startsGenerator || (← atFieldRest false) then none else accessorWord? key
  if accessor?.isNone && (← atFieldRest true) then
    return ← fieldRest recur start isStatic key
  match key, accessor? with
  | .keyName _ "async", _ =>
    if !(← afterLineBreak) then
      let isGenerator := (← token) == .operator .mul
      if isGenerator then bump
      let key ← memberKey recur
      if isConstructorKey key then failAt key.span.lo .asyncConstructor
      return ← methodRest recur start isStatic .method true isGenerator key
    unexpected "* for generator, private key, identifier or async"
  | _, some kind =>
    let word := key.span
    let key ← memberKey recur
    if isConstructorKey key then note word.lo .accessorConstructor
    let check := if kind == .getter then checkGetter word.lo else checkSetter word.lo
    methodRest recur start isStatic kind false false key check
  | _, none => unexpected "* for generator, private key, identifier or async"

/-- A member of a class. -/
def classMember (recur : Recur) : Parser Node := do
  let start ← pos
  if ← isWord "static" then
    let word ← span
    bump
    let key := Node.keyName word "static"
    if ← isMark .parenOpen then
      return ← methodRest recur start false .method false false key
    if ← atFieldRest false then return ← fieldRest recur start false key
    return ← memberRest recur start true
  memberRest recur start false

/-- The members of a class up to its closing brace; `hasConstructor` tells of a constructor before
them, after which there may be no other. -/
def classMembers (recur : Recur) : Nat → Bool → List Node → Parser (List Node)
  | 0, _, _ => do throw ⟨← pos, .tooDeep⟩
  | fuel + 1, hasConstructor, found => do
    if ← isMark .braceClose then return found.reverse
    let span ← span
    if ← eat .semicolon then
      return ← classMembers recur fuel hasConstructor (.emptyStmt span :: found)
    let member ← within ({ · with admitsSuper := true }) (classMember recur)
    let isConstructor := member matches .classConstructor ..
    if isConstructor && hasConstructor then note span.lo .repeatedConstructor
    classMembers recur fuel (hasConstructor || isConstructor) (member :: found)

/-- A class; the current token is its word. -/
def classFrom (recur : Recur) (needsName : Bool) : Parser Node := do
  let start ← pos
  expectWord "class"
  let name ← do
    if needsName || (← token).isName then pure (some (← declaredIdentifier))
    else pure none
  let superClass ← do
    if ← eatWord "extends" then pure (some (← recur .leftHandSide))
    else pure none
  if ← isWord "extends" then
    note (← pos) .repeatedExtends
    bump
    let _ ← recur .leftHandSide
  expect .braceOpen
  let members ← within ({ · with inClass := true }) do classMembers recur (← bound) false []
  expect .braceClose
  return .classDef (← spanFrom start) name superClass members

end ScriptMaps.Syntax.Parser
