import ScriptMaps.Syntax.Parser.Statement

/-!
# Module items

What stands at the top of a module: statements, imports and exports.
-/

namespace ScriptMaps.Syntax.Parser

/-- The name by which a module knows what it imports or exports: a word or a string. -/
def moduleName : Parser Node := do
  match ← stringLiteral? with
  | some s => return s
  | none =>
    if (← token).isAnyWord then wordName
    else unexpected "identifier or string"

/-- The module a declaration draws from. -/
def fromClause : Parser Node := do
  expectWord "from"
  match ← stringLiteral? with
  | some s => return s
  | none => unexpected "a string literal"

/-- How a string reads, halves of surrogate pairs aside. -/
def textOf (value : List Nat) : String := String.ofList (value.map Char.ofNat)

/-- One imported name. -/
def importSpecifier : Parser Node := do
  let start ← pos
  let imported ← moduleName
  if ← eatWord "as" then
    let name ← bindingIdentifier
    return .importName ⟨start, name.span.hi⟩ (some imported) name
  match imported with
  | .keyName span name =>
    if isReserved name then failAt span.lo .reservedImport
    return .importName (← spanFrom start) none (.ident span name)
  | .literal span (.str value _) => failAt span.lo (.stringImport (textOf value))
  | node => return node

/-- Names in braces, with commas between them. -/
def specifiers (specifier : Parser Node) : Parser (List Node) := do
  expect .braceOpen
  let found ← many do
    if ← isMark .braceClose then return none
    let next ← specifier
    if !(← isMark .braceClose) then expect .comma
    return some next
  expect .braceClose
  return found

/-- What an import names besides the default: a name for all that the module exports, unless only
its source is taken in, or names in braces, if the import has no phase. -/
def importedNames (phase : Option ImportPhase) : Parser (List Node) := do
  let start ← pos
  if phase != some .source && (← token) == .operator .mul then
    bump
    expectWord "as"
    let name ← bindingIdentifier
    return [.importNamespace (← spanFrom start) name]
  if phase.isNone && (← isMark .braceOpen) then return ← specifiers importSpecifier
  return []

/-- Whether the default of an import is at the current token after a word that may be a phase: a
name that is not the word before the module's. -/
def atDefaultAfterPhase : Parser Bool := do
  let t ← token
  if t.isWord "from" then return (← peek).1.isWord "from"
  return t.isName

/-- The phase of an import and the default it names, if any. A word for a phase is a name unless
something that an import names comes next. -/
def importedDefault : Parser (Option ImportPhase × List Node) := do
  if !(← token).isName then return (none, [])
  let name ← bindingIdentifier
  let word? := match name with
    | .ident _ text => ImportPhase.ofWord? text
    | _ => none
  if word?.isSome && ((← token) == .operator .mul || (← isMark .braceOpen)) then
    return (word?, [])
  let phase := if word?.isSome && (← atDefaultAfterPhase) then word? else none
  let name ← if phase.isSome then bindingIdentifier else pure name
  if !(← isWord "from") then expect .comma
  return (phase, [.importDefault name.span name])

/-- What is said about the module a declaration draws from, if anything: an object after a word on
the line of the module's name. -/
def importAttributes (recur : Recur) : Parser (Option Node) := do
  if ← afterLineBreak then return none
  let hasWord ← if ← eatWord "with" then pure true else eatWord "assert"
  if hasWord then return some (← objectLiteral recur)
  return none

/-- An import. -/
def importDeclaration (recur : Recur) : Parser Node := do
  let start ← pos
  expectWord "import"
  match ← stringLiteral? with
  | some source =>
    let attributes ← importAttributes recur
    let _ ← eatStatementEnd
    return .importDecl (← spanFrom start) none [] source attributes
  | none =>
    let (phase, first) ← importedDefault
    let more ← importedNames phase
    let source ← fromClause
    let attributes ← importAttributes recur
    expectStatementEnd
    return .importDecl (← spanFrom start) phase (first ++ more) source attributes

/-- One exported name. -/
def exportSpecifier : Parser Node := do
  let start ← pos
  let name ← moduleName
  let exported ← do
    if ← eatWord "as" then pure (some (← moduleName))
    else pure none
  let name := match name with
    | .keyName span text => Node.ident span text
    | node => node
  return .exportName (← spanFrom start) name exported

/-- Notes names that may only be exported from another module. -/
def checkOwnExport : Node → Parser Unit
  | .exportName _ name _ =>
    match name with
    | .ident span text => do if isReserved text then note span.lo (.reservedExport text)
    | .literal span (.str ..) => note span.lo .stringExport
    | _ => pure ()
  | _ => pure ()

/-- The module an export draws from, what is said about it, and the end of the statement. -/
def exportSource (recur : Recur) : Parser (Node × Option Node) := do
  let source ← fromClause
  let attributes ← importAttributes recur
  let _ ← eatStatementEnd
  return (source, attributes)

/-- An export of names. -/
def exportNames (recur : Recur) (start : Nat) : Parser Node := do
  let found ← specifiers exportSpecifier
  if ← isWord "from" then
    let (source, attributes) ← exportSource recur
    return .exportNames (← spanFrom start) found (some source) attributes
  found.forM checkOwnExport
  let _ ← eatStatementEnd
  return .exportNames (← spanFrom start) found none none

/-- An export of all that another module exports, as such or under one name. -/
def exportAll (recur : Recur) (start : Nat) : Parser Node := do
  let star ← pos
  bump
  if ← eatWord "as" then
    let name ← moduleName
    let specifier := Node.exportNamespace (← spanFrom star) name
    let (source, attributes) ← exportSource recur
    return .exportNames (← spanFrom start) [specifier] (some source) attributes
  let (source, attributes) ← exportSource recur
  return .exportAll (← spanFrom start) source attributes

/-- An export of a default. -/
def exportDefault (recur : Recur) (start : Nat) : Parser Node := do
  if ← isWord "class" then
    let decl ← classFrom recur false
    return .exportDefaultDecl (← spanFrom start) decl
  if (← isWord "function") || (← atAsyncFunction) then
    let decl ← functionAny recur false false
    return .exportDefaultDecl (← spanFrom start) decl
  let e ← value recur
  expectStatementEnd
  return .exportDefaultExpr (← spanFrom start) e

/-- An export. -/
def exportDeclaration (recur : Recur) : Parser Node := do
  let start ← pos
  expectWord "export"
  refuseBad
  if (← token) == .eof then fail .unexpectedEnd
  if (← token) == .operator .mul then return ← exportAll recur start
  if ← eatWord "default" then return ← exportDefault recur start
  let decl? ← do
    if ← isWord "class" then pure (some (← classFrom recur true))
    else if (← isWord "function") || (← atAsyncFunction) then
      pure (some (← functionAny recur false true))
    else
      match ← atVariables with
      | some kind => pure (some (← variableDecl recur false kind))
      | none => pure none
  match decl? with
  | some decl => return .exportDecl (← spanFrom start) decl
  | none => exportNames recur start

/-- An item of a module. -/
def moduleItem (recur : Recur) : Parser Node := do
  if ← isWord "import" then
    let (next, _) ← peek
    if next.isMark .parenOpen || next.isMark .dot then return ← nestedModuleDeclaration recur
    return ← importDeclaration recur
  if ← isWord "export" then return ← exportDeclaration recur
  recur (.statement true)

end ScriptMaps.Syntax.Parser
