import ScriptMaps.Json.Value

/-!
# Writing JSON

Values are written without blanks. Strings escape only quotes, backslashes and control characters.
-/

namespace ScriptMaps.Json

open ScriptMaps.Decimal

/-- The digits of a number below 256 in hexadecimal. -/
def twoHexDigits (n : Nat) : List Char := [Nat.digitChar (n / 16), Nat.digitChar (n % 16)]

/-- A character inside a string. -/
def escapeChar (c : Char) : List Char :=
  if c == '"' then ['\\', '"']
  else if c == '\\' then ['\\', '\\']
  else if c.toNat ≥ 0x20 then [c]
  else if c.toNat == 8 then ['\\', 'b']
  else if c.toNat == 9 then ['\\', 't']
  else if c.toNat == 10 then ['\\', 'n']
  else if c.toNat == 12 then ['\\', 'f']
  else if c.toNat == 13 then ['\\', 'r']
  else ['\\', 'u', '0', '0'] ++ twoHexDigits c.toNat

/-- A string with its quotes. -/
def writeString (s : String) : List Char := '"' :: s.toList.flatMap escapeChar ++ ['"']

/-- A floating point number; it always shows a fraction or an exponent. -/
def writeDouble (x : Binary64) : List Char :=
  (if x.isNegative then ['-'] else []) ++ (shortest x).scientific.toList

/-- A number. -/
def writeNumber : Number → List Char
  | .integer n => (toString n).toList
  | .double x => writeDouble x

/-- Texts with commas between them. -/
def separated : List (List Char) → List Char
  | [] => []
  | [t] => t
  | t :: ts => t ++ ',' :: separated ts

/-- Written elements in brackets. -/
def writeList (elems : List (List Char)) : List Char := '[' :: separated elems ++ [']']

/-- A key with the written value under it. -/
def writeMember (key : String) (value : List Char) : List Char := writeString key ++ ':' :: value

/-- Written members in braces. -/
def writeObject (members : List (List Char)) : List Char :=
  '\x7b' :: separated members ++ ['\x7d']

mutual

/-- A value. -/
def writeValue : Value → List Char
  | .null => "null".toList
  | .bool b => (toString b).toList
  | .number n => writeNumber n
  | .string s => writeString s
  | .array elems => writeList (writeElements elems)
  | .object members => writeObject (writeMembers members)

/-- The elements of an array. -/
def writeElements : List Value → List (List Char)
  | [] => []
  | v :: vs => writeValue v :: writeElements vs

/-- The members of an object. -/
def writeMembers : List (String × Value) → List (List Char)
  | [] => []
  | (key, v) :: ms => writeMember key (writeValue v) :: writeMembers ms

end

/-- An optional string, `null` if there is none. -/
def writeOptionalString : Option String → List Char
  | none => "null".toList
  | some s => writeString s

/-- A truth value. -/
def writeBool (b : Bool) : List Char := (toString b).toList

end ScriptMaps.Json
