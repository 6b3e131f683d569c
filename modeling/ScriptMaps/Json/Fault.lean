/-!
# Faults of JSON texts

Why a text cannot be read as JSON, or as JSON of a certain form, how that is worded, and where it is
said to be.
-/

namespace ScriptMaps.Json

/-- What is wrong with a JSON text. -/
inductive Cause where
  -- the text ends too early
  | endOfList | endOfObject | endOfString | endOfValue
  -- the text is no JSON
  | expectedColon
  | expectedListEnd
  | expectedObjectEnd
  | expectedIdent
  | expectedValue
  | invalidEscape
  | invalidNumber
  | numberOutOfRange
  | controlCharacter
  | keyNotString
  | loneSurrogate
  | endOfHexEscape
  | trailingComma
  | trailingCharacters
  | tooDeep
  -- the text is JSON of another form
  | wrongType (found wanted : String)
  | wrongValue (found wanted : String)
  | wrongLength (count : Nat) (wanted : String)
  | missingField (name : String)
  | repeatedField (name : String)
  deriving Repr, DecidableEq, Inhabited

/-- The three kinds of faults. -/
inductive Category where
  | eof | malformed | data
  deriving Repr, DecidableEq, Inhabited

/-- How a kind of faults is called. -/
def Category.name : Category → String
  | .eof => "eof"
  | .malformed => "syntax"
  | .data => "data"

namespace Cause

/-- The kind of a cause. -/
def category : Cause → Category
  | endOfList | endOfObject | endOfString | endOfValue => .eof
  | wrongType .. | wrongValue .. | wrongLength .. | missingField _ | repeatedField _ => .data
  | _ => .malformed

/-- The wording of a cause. -/
def message : Cause → String
  | endOfList => "EOF while parsing a list"
  | endOfObject => "EOF while parsing an object"
  | endOfString => "EOF while parsing a string"
  | endOfValue => "EOF while parsing a value"
  | expectedColon => "expected `:`"
  | expectedListEnd => "expected `,` or `]`"
  | expectedObjectEnd => "expected `,` or `\x7d`"
  | expectedIdent => "expected ident"
  | expectedValue => "expected value"
  | invalidEscape => "invalid escape"
  | invalidNumber => "invalid number"
  | numberOutOfRange => "number out of range"
  | controlCharacter => "control character (\\u0000-\\u001F) found while parsing a string"
  | keyNotString => "key must be a string"
  | loneSurrogate => "lone leading surrogate in hex escape"
  | endOfHexEscape => "unexpected end of hex escape"
  | trailingComma => "trailing comma"
  | trailingCharacters => "trailing characters"
  | tooDeep => "recursion limit exceeded"
  | wrongType found wanted => "invalid type: " ++ found ++ ", expected " ++ wanted
  | wrongValue found wanted => "invalid value: " ++ found ++ ", expected " ++ wanted
  | wrongLength count wanted =>
    "invalid length " ++ toString count ++ ", expected " ++ wanted
  | missingField name => "missing field `" ++ name ++ "`"
  | repeatedField name => "duplicate field `" ++ name ++ "`"

end Cause

/-- A cause and the line and column where it was found. -/
structure Fault where
  cause : Cause
  line : Nat
  column : Nat
  deriving Repr, DecidableEq, Inhabited

/-- How a fault is reported. -/
def Fault.message (f : Fault) : String :=
  f.cause.message ++ " at line " ++ toString f.line ++ " column " ++ toString f.column

end ScriptMaps.Json
