import ScriptMaps.Text.Shown

/-!
# Faults of a source text

Why a text is not a module, and how each reason is worded. A fault is reported at the position of
the first character it concerns.
-/

namespace ScriptMaps.Syntax

/-- The radix of an integer literal. -/
inductive Radix where
  | binary | octal | decimal | hexadecimal
  deriving Repr, DecidableEq, Inhabited

/-- The number of digits of a radix. -/
def Radix.base : Radix → Nat
  | .binary => 2
  | .octal => 8
  | .decimal => 10
  | .hexadecimal => 16

/-- What is wrong at a place of a text. -/
inductive Cause where
  -- characters
  | unexpectedCharacter (c : Char)
  | unterminatedString
  | unterminatedTemplate
  | unterminatedRegex
  | unterminatedBlockComment
  | legacyComment
  | mergeConflict
  | legacyOctal
  | legacyDecimal
  | missingDigit (radix : Radix)
  | missingExponent
  | misplacedSeparator
  | identifierAfterNumber
  | badIdentifierCharacter
  | missingUnicodeEscape
  | badEscape (expected : String)
  | badUnicodeEscape
  | badStringEscape
  | escapedReservedWord (word : String)
  | unknownRegexFlags
  | repeatedRegexFlag (flag : Char)
  -- tokens
  | expectedToken (wanted got : String)
  | unexpectedToken (got wanted : String)
  | expectedIdentifier
  | expectedExpression
  | expectedStatementEnd
  | missingSemicolon
  | lineBreakAfterThrow
  | lineBreakBeforeArrow
  | spaceAfterHash
  -- expressions
  | invalidTarget
  | notAssignable
  | unassignable
  | unaryBeforePower
  | mixedCoalescing
  | awaitStar
  | awaitOutsideAsync
  | awaitInParameter
  | awaitAsIdentifier
  | yieldInParameter
  | misplacedArrow
  | emptyParens
  | spreadInParens
  | notExpression
  | notPattern
  | defaultInObject
  | reservedShorthand
  | strictIdentifier (name : String)
  | restrictedBinding
  | argumentsInField
  | deleteIdentifier
  | newTargetOutside
  | misplacedSuper
  | misplacedSuperCall
  | optionalSuperCall
  | chainAfterNew
  | templateInChain
  | misplacedImport
  | importArguments
  | getterParameter
  | setterParameter
  | restInSetter
  -- patterns and parameters
  | restNotLast
  | restParameterNotLast
  | restWithDefault
  | commaAfterRest
  | restWithoutName
  | trailingComma
  -- statements
  | declarationNotAllowed
  | uninitializedConst
  | uninitializedPattern
  | severalLoopVariables
  | initializedLoopVariable
  | asyncLoopVariable
  | awaitInPlainFor
  | returnOutsideFunction
  | breakOutside
  | breakUnknownLabel
  | continueOutside
  | jumpAcrossFunction
  | repeatedLabel (name : String)
  | labeledFunction
  | labeledGenerator
  | repeatedDefault
  | withStatement
  | strictDirectiveHere
  | usingDeclaration
  -- classes
  | repeatedExtends
  | repeatedConstructor
  | constructorField
  | generatorConstructor
  | asyncConstructor
  | accessorConstructor
  | privateConstructor
  -- modules
  | unexpectedEnd
  | moduleDeclarationHere
  | reservedImport
  | stringImport (name : String)
  | stringExport
  | reservedExport (name : String)
  -- markup
  | closingTag (name : String)
  | emptyAttribute
  | attributeValue
  | bareCloser (c : Char)
  -- the reader's own bound
  | tooDeep
  deriving Repr, DecidableEq, Inhabited

namespace Cause

/-- Whether only strict code has a fault of a cause, wherever it stands. -/
def isStrictOnly : Cause → Bool
  | legacyComment | legacyOctal | legacyDecimal => true
  | _ => false

/-- The wording of a cause. -/
def message : Cause → String
  | unexpectedCharacter c => "Unexpected character " ++ Text.shownChar c
  | unterminatedString => "Unterminated string constant"
  | unterminatedTemplate => "Unterminated template"
  | unterminatedRegex => "Unterminated regexp literal"
  | unterminatedBlockComment => "Unterminated block comment"
  | legacyComment => "Legacy comments cannot be used in module code"
  | mergeConflict => "Merge conflict marker encountered."
  | legacyOctal => "Legacy octal escape is not permitted in strict mode"
  | legacyDecimal => "Legacy decimal escape is not permitted in strict mode"
  | missingDigit .binary => "Expected a binary digit"
  | missingDigit .octal => "Expected an octal digit"
  | missingDigit .decimal => "Expected a decimal digit"
  | missingDigit .hexadecimal => "Expected a hexadecimal digit"
  | missingExponent => "Expected +, - or decimal digit after e"
  | misplacedSeparator => "A numeric separator is only allowed between two digits"
  | identifierAfterNumber => "Identifier cannot follow number"
  | badIdentifierCharacter => "Invalid character in identifier"
  | missingUnicodeEscape => "Expected unicode escape"
  | badEscape expected => "Bad character escape sequence, expected " ++ expected
  | badUnicodeEscape => "Invalid unicode escape"
  | badStringEscape => "Invalid string escape"
  | escapedReservedWord word => "Unexpected escape sequence in reserved word: " ++ word
  | unknownRegexFlags => "Unknown regular expression flags."
  | repeatedRegexFlag flag => "Duplicated regular expression flag '" ++ flag.toString ++ "'."
  | expectedToken wanted got => "Expected '" ++ wanted ++ "', got '" ++ got ++ "'"
  | unexpectedToken got wanted => "Unexpected token `" ++ got ++ "`. Expected " ++ wanted
  | expectedIdentifier => "Expected ident"
  | expectedExpression => "Expression expected"
  | expectedStatementEnd => "Expected ';', '\x7d' or <eof>"
  | missingSemicolon => "Expected a semicolon"
  | lineBreakAfterThrow => "LineBreak cannot follow 'throw'"
  | lineBreakBeforeArrow => "Unexpected line break between arrow head and arrow"
  | spaceAfterHash => "Unexpected space between # and identifier"
  | invalidTarget => "Invalid assignment target"
  | notAssignable =>
    "The left-hand side of an assignment expression must be a variable or a property access."
  | unassignable => "Cannot assign to this"
  | unaryBeforePower => "'**' cannot be applied to unary/await expression."
  | mixedCoalescing =>
    "Nullish coalescing operator(??) requires parens when mixing with logical operators"
  | awaitStar =>
    "await* has been removed from the async functions proposal. Use Promise.all() instead."
  | awaitOutsideAsync => "await isn't allowed in non-async function"
  | awaitInParameter => "`await` expressions cannot be used in a parameter initializer."
  | awaitAsIdentifier => "`await` cannot be used as an identifier in an async context"
  | yieldInParameter => "'yield' cannot be used as a parameter within generator"
  | misplacedArrow => "An arrow function is not allowed here"
  | emptyParens => "Parenthesized expression cannot be empty"
  | spreadInParens => "Parenthesized expression cannot contain spread operator"
  | notExpression => "Not an expression"
  | notPattern => "Not a pattern"
  | defaultInObject => "assignment property is invalid syntax"
  | reservedShorthand => "Cannot use a reserved word as a shorthand property"
  | strictIdentifier name => "`" ++ name ++ "` cannot be used as an identifier in strict mode"
  | restrictedBinding =>
    "'eval' and 'arguments' cannot be used as a binding identifier in strict mode"
  | argumentsInField => "'arguments' is only allowed in functions and class methods"
  | deleteIdentifier => "'delete' cannot be called on an identifier in strict mode"
  | newTargetOutside =>
    "'new.target' is only allowed in the body of a function declaration, function expression, "
      ++ "or class."
  | misplacedSuper => "Invalid access to super"
  | misplacedSuperCall => "Invalid `super()`"
  | optionalSuperCall => "Super call cannot be optional"
  | chainAfterNew => "Constructor in/after an optional chaining is not allowed."
  | templateInChain => "Tagged template literals are not allowed in optional chain."
  | misplacedImport => "Import is not allowed here"
  | importArguments => "`import()` requires exactly one or two arguments"
  | getterParameter => "A `get` accessor cannot have parameters"
  | setterParameter => "A `set` accessor must have exactly one parameter"
  | restInSetter => "Rest pattern is not allowed in setter"
  | restNotLast => "Rest element must be final element"
  | restParameterNotLast => "A rest parameter must be last in a parameter list"
  | restWithDefault => "A rest parameter cannot have an initializer"
  | commaAfterRest => "Trailing comma isn't permitted after a rest element"
  | restWithoutName => "`...` must be followed by an identifier in declaration contexts"
  | trailingComma => "Trailing comma is not allowed"
  | declarationNotAllowed => "Declaration is not allowed"
  | uninitializedConst => "'const' declarations must be initialized"
  | uninitializedPattern => "Destructuring bindings require initializers"
  | severalLoopVariables => "Expected one variable binding"
  | initializedLoopVariable => "Unexpected initializer in for in/of loop"
  | asyncLoopVariable => "The left-hand side of a `for...of` statement may not be `async`"
  | awaitInPlainFor => "for await syntax is valid only for for-of statement"
  | returnOutsideFunction => "Return statement is not allowed here"
  | breakOutside =>
    "A 'break' statement can only be used within an enclosing iteration or switch statement"
  | breakUnknownLabel => "A 'break' statement can only jump to a label of an enclosing statement"
  | continueOutside =>
    "A 'continue' statement can only jump to a label of an enclosing iteration statement"
  | jumpAcrossFunction => "Jump target cannot cross function boundary"
  | repeatedLabel name => "Label " ++ name ++ " is already declared"
  | labeledFunction => "Function cannot be labelled in strict mode"
  | labeledGenerator => "Generator or async function cannot be labelled"
  | repeatedDefault => "A switch block cannot have multiple defaults"
  | withStatement => "With statement are not allowed in strict mode"
  | strictDirectiveHere =>
    "Illegal 'use strict' directive in function with non-simple parameter list."
  | usingDeclaration =>
    "Using declaration is not enabled. Set jsc.parser.explicitResourceManagement to true"
  | repeatedExtends => "`extends` clause already seen."
  | repeatedConstructor => "A class can only have one constructor"
  | constructorField => "Classes may not have a non-static field named 'constructor'"
  | generatorConstructor => "A constructor cannot be generator"
  | asyncConstructor => "Constructor can't be an async function"
  | accessorConstructor => "Class constructor can't be an accessor."
  | privateConstructor => "Classes can't have a private field named '#constructor'."
  | unexpectedEnd => "Unexpected eof"
  | moduleDeclarationHere => "'import', and 'export' cannot be used outside of module code"
  | reservedImport => "cannot import as reserved word"
  | stringImport name =>
    "A string literal cannot be used as an imported binding.\n- Did you mean `import \x7b \""
      ++ name ++ "\" as foo \x7d`?"
  | stringExport => "A string literal cannot be used as an exported binding without `from`."
  | reservedExport name => "`" ++ name ++ "` cannot be used without `from` clause"
  | closingTag name => "Expected corresponding JSX closing tag for <" ++ name ++ ">"
  | emptyAttribute => "JSX attributes must only be assigned a non-empty expression"
  | attributeValue => "JSX value should be either an expression or a quoted JSX text"
  | bareCloser c =>
    let entity := if c == '>' then "&gt;" else "&rbrace;"
    "Unexpected token. Did you mean `\x7b'" ++ c.toString ++ "'\x7d` or `" ++ entity ++ "`?"
  | tooDeep => "The text is nested too deeply"

end Cause

/-- A cause and the position it is reported at. -/
structure Fault where
  pos : Nat
  cause : Cause
  deriving Repr, DecidableEq, Inhabited

end ScriptMaps.Syntax
