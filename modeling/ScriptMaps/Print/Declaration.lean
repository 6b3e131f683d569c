import ScriptMaps.Print.Statement

/-!
# Printed imports and exports

How the items that tie a module to others are put together from their printed parts.
-/

namespace ScriptMaps.Print

open ScriptMaps.Syntax

/-- Whether an import is that of a default. -/
def isImportDefault : Node → Bool
  | .importDefault .. => true
  | _ => false

/-- Whether an import stands outside braces. -/
def isBare : Node → Bool
  | .importDefault .. | .importNamespace .. => true
  | _ => false

/-- Whether an export is that of a whole module under a name. -/
def isExportNamespace : Node → Bool
  | .exportNamespace .. => true
  | _ => false

/-- Whether a node declares variables. -/
def isVariables : Node → Bool
  | .variableDecl .. => true
  | _ => false

/-- Specifiers in braces. -/
def bracedSpecifiers (specifiers : List Node) (printed : Printer) : Printer := do
  write "\x7b"
  around bracedList specifiers false printed
  write "\x7d"

/-- The module that a declaration names. -/
def fromSource (source : Printer) : Printer := do
  write "from"
  softSpace
  source

/-- What is said about the module that a declaration names. -/
def withAttributes (attributes : Printer) : Printer := do
  softSpace
  write "with"
  softSpace
  attributes

/-- An import; `bare` prints what is imported outside braces, and `braced` what is in them. -/
def printImport (span : Span) (phase : Option ImportPhase) (specifiers : List Node)
    (bare braced source attributes : Printer) : Printer := do
  enter span
  write "import"
  match phase with
  | some phase =>
    space
    write phase.text
  | none => pure ()
  spaceIf ((specifiers.head?.map isImportDefault).getD false)
  bare
  let named := specifiers.filter fun n => !isBare n
  if !named.isEmpty then bracedSpecifiers named braced
  if specifiers.isEmpty then source
  else
    spaceIf named.isEmpty
    fromSource source
  attributes
  write ";"
  markEnd span

/-- A whole module under a name. -/
def wholeModule (name : Printer) : Printer := do
  write "*"
  softSpace
  write "as "
  name

/-- The import of a name; `imported` prints what it is called at home, if that is said. -/
def printImportName (span : Span) (imported name : Printer) : Printer := do
  enter span
  imported
  name
  markEnd span

/-- What an import is called at home. -/
def calledAtHome (name : Printer) : Printer := do
  name
  write " as "

/-- What an export is called abroad. -/
def calledAbroad (name : Printer) : Printer := do
  write " as "
  name

/-- The export of a name; `exported` prints what it is called abroad, if that is said. -/
def printExportName (span : Span) (name exported : Printer) : Printer := do
  enter span
  name
  exported
  markEnd span

/-- The export of a whole module under a name. -/
def printExportNamespace (span : Span) (name : Printer) : Printer := do
  enter span
  wholeModule name
  markEnd span

/-- The export of a declaration. -/
def printExportDecl (span : Span) (decl : Node) (printed : Printer) : Printer := do
  enter span
  write "export "
  printed
  if isVariables decl then
    write ";"
    markEnd span

/-- The export of names, or of a module under a name; `named` prints these in their braces and
`whole` that. -/
def printExportNames (span : Span) (specifiers : List Node) (named whole : Printer)
    (hasSource : Bool) (source attributes : Printer) : Printer := do
  enter span
  write "export"
  softSpace
  let isNamespace := (specifiers.head?.map isExportNamespace).getD false
  if isNamespace then whole else bracedSpecifiers specifiers named
  if hasSource then
    spaceIf isNamespace
    fromSource source
  attributes
  write ";"
  markEnd span

/-- The export of all that another module exports. -/
def printExportAll (span : Span) (source attributes : Printer) : Printer := do
  enter span
  write "export"
  softSpace
  write "*"
  softSpace
  fromSource source
  attributes
  write ";"
  markEnd span

/-- The export of an expression as the default. -/
def printExportDefaultExpr (span : Span) (expr : Node) (printed : Printer) : Printer := do
  enter span
  write "export default"
  spaceIf (startsWithWord expr)
  printed
  write ";"
  markEnd span

/-- The export of a declaration as the default. -/
def printExportDefaultDecl (span : Span) (decl : Printer) : Printer := do
  enter span
  write "export default "
  decl

end ScriptMaps.Print
