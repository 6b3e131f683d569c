import ScriptMaps.Json.Value
import ScriptMaps.Json.Printer
import ScriptMaps.Json.Fault

/-!
# Reading JSON

A reader takes what it needs from the front of a text and leaves the rest; the first thing that is
wrong stops it. How far it is, and so where a fault lies, is told by what is left of the text.

Values that are kept may be nested up to a depth, which each reader of a value takes as an argument:
the number of containers that may still be opened. Values that are passed over are only checked for
their form.
-/

namespace ScriptMaps.Json

open ScriptMaps.Decimal

/-- What stopped a reader, what was left of the text then, and whether the fault is said to be at
the next character rather than before it. -/
structure Failure where
  cause : Cause
  rest : List Char
  isAhead : Bool
  deriving Inhabited

/-- A step of reading. -/
abbrev Reader := StateT (List Char) (Except Failure)

/-- How deeply kept values may be nested. -/
def depthLimit : Nat := 127

namespace Reader

/-- Stops before what is left. -/
def fail {α : Type} (cause : Cause) : Reader α := fun rest => .error ⟨cause, rest, false⟩

/-- Stops at the next character. -/
def failAhead {α : Type} (cause : Cause) : Reader α := fun rest => .error ⟨cause, rest, true⟩

/-- The next character. -/
def peek : Reader (Option Char) := return (← get).head?

/-- Passes the next character. -/
def bump : Reader Unit := modify fun rest => rest.drop 1

/-- The next character, which is passed. -/
def next : Reader (Option Char) := do
  let c ← peek
  bump
  return c

/-- Whether a character may stand between the parts of a JSON text. -/
def isBlank (c : Char) : Bool := c == ' ' || c == '\n' || c == '\t' || c == '\r'

/-- Passes blanks; the next character after them. -/
def peekPart : Reader (Option Char) := do
  modify fun rest => rest.dropWhile isBlank
  peek

/-- A bound on how often anything can be repeated in what is left. -/
def bound : Reader Nat := return (← get).length + 1

/-- Passes the rest of a word. -/
def word : List Char → Reader Unit
  | [] => pure ()
  | c :: cs => do
    match ← next with
    | none => fail .endOfValue
    | some d => if d == c then word cs else fail .expectedIdent

/-! ## Strings -/

/-- The value of a hexadecimal digit. -/
def hexValue? (c : Char) : Option Nat :=
  if c.isDigit then some (c.toNat - '0'.toNat)
  else if 'a' ≤ c && c ≤ 'f' then some (c.toNat - 'a'.toNat + 10)
  else if 'A' ≤ c && c ≤ 'F' then some (c.toNat - 'A'.toNat + 10)
  else none

/-- The number four hexadecimal digits stand for. -/
def hexQuad? : List Char → Option Nat
  | [a, b, c, d] => do
    let w ← hexValue? a
    let x ← hexValue? b
    let y ← hexValue? c
    let z ← hexValue? d
    return ((w * 16 + x) * 16 + y) * 16 + z
  | _ => none

/-- The number of bytes of a text. -/
def byteCount (text : List Char) : Nat := text.foldl (fun n c => n + c.utf8Size) 0

/-- Reads the digits of an escape. -/
def hexEscape : Reader Nat := do
  let digits := (← get).take 4
  if byteCount digits < 4 then
    set ([] : List Char)
    fail .endOfString
  modify fun rest => rest.drop 4
  match hexQuad? digits with
  | some n => return n
  | none => fail .invalidEscape

/-- Passes a character inside an escape of two parts. -/
def escapePart (c : Char) : Reader Unit := do
  match ← peek with
  | none => fail .endOfString
  | some d =>
    bump
    if d != c then fail .endOfHexEscape

/-- Reads the second half of a surrogate pair. -/
def lowSurrogate (high : Nat) : Reader Char := do
  escapePart '\\'
  escapePart 'u'
  let low ← hexEscape
  if low < 0xdc00 || low > 0xdfff then fail .loneSurrogate
  return Char.ofNat (0x10000 + (high - 0xd800) * 0x400 + (low - 0xdc00))

/-- Reads an escape after its backslash. -/
def escape (isKept : Bool) : Reader Char := do
  match ← next with
  | none => fail .endOfString
  | some c =>
    match c with
    | '"' | '\\' | '/' => return c
    | 'b' => return '\x08'
    | 'f' => return '\x0c'
    | 'n' => return '\n'
    | 'r' => return '\r'
    | 't' => return '\t'
    | 'u' =>
      let n ← hexEscape
      if !isKept then return Char.ofNat n
      if 0xdc00 ≤ n && n ≤ 0xdfff then fail .loneSurrogate
      if 0xd800 ≤ n && n ≤ 0xdbff then lowSurrogate n
      else return Char.ofNat n
    | _ => fail .invalidEscape

/-- Reads a string after its opening quote; what was read of it is in reverse. -/
def stringRest (isKept : Bool) : Nat → List Char → Reader String
  | 0, _ => fail .endOfString
  | fuel + 1, found => do
    match ← peek with
    | none => fail .endOfString
    | some c =>
      bump
      if c == '"' then return String.ofList found.reverse
      else if c == '\\' then stringRest isKept fuel ((← escape isKept) :: found)
      else if c.toNat < 0x20 then fail .controlCharacter
      else stringRest isKept fuel (c :: found)

/-- Reads a string; the next character is its opening quote. -/
def string (isKept : Bool) : Reader String := do
  bump
  stringRest isKept (← bound) []

/-! ## Numbers -/

/-- The largest integer that is kept as such. -/
def greatestInteger : Nat := 0xffffffffffffffff

/-- An integer as a floating point number. -/
def rounded (n : Nat) : Binary64 := (Binary64.round false n 1).getD (Binary64.zero false)

/-- A power of ten as a floating point number. -/
def powerOfTen (n : Nat) : Binary64 := (Binary64.ofDecimal false 1 n).getD (Binary64.zero false)

/-- The number `significand * 10 ^ e`, computed by steps that round each. -/
def scale : Nat → Binary64 → Int → Option Binary64
  | 0, x, _ => some x
  | fuel + 1, x, e =>
    if e.natAbs ≤ 308 then
      if e ≥ 0 then x.multiply (powerOfTen e.toNat) else x.divide (powerOfTen e.natAbs)
    else if x.isZero then some x
    else if e ≥ 0 then none
    else (x.divide (powerOfTen 308)).bind fun y => scale fuel y (e + 308)

/-- A floating point number from its parts. -/
def fromParts (isNegative : Bool) (significand : Nat) (e : Int) : Reader Number := do
  match scale 20 (rounded significand) (max e (-5000)) with
  | none => fail .numberOutOfRange
  | some x => return .double { x with isNegative := isNegative }

/-- Passes a run of digits. -/
def digits : Reader (List Char) := do
  let run := (← get).takeWhile Char.isDigit
  modify fun rest => rest.dropWhile Char.isDigit
  return run

/-- Digits that are added to a number as long as it stays in range. -/
def gather : List Char → Nat → Nat × Nat
  | [], n => (n, 0)
  | c :: cs, n =>
    let m := n * 10 + (c.toNat - '0'.toNat)
    if m > greatestInteger then (n, cs.length + 1) else gather cs m

/-- The number a run of digits stands for. -/
def decimal (ds : List Char) : Nat := ds.foldl (fun n c => n * 10 + (c.toNat - '0'.toNat)) 0

/-- Reads the sign of an exponent: whether it is negative. -/
def exponentSign : Reader Bool := do
  match ← peek with
  | some '+' =>
    bump
    return false
  | some '-' =>
    bump
    return true
  | _ => return false

/-- Reads the digits of an exponent. -/
def exponentDigits (isNegative : Bool) (significand : Nat) (e : Int) (isDown : Bool) :
    Reader Number := do
  match ← peek with
  | none => fail .endOfValue
  | some c =>
    if !c.isDigit then
      bump
      fail .invalidNumber
    let value := decimal (← digits)
    if value > 0x7fffffff then
      if significand != 0 && !isDown then fail .numberOutOfRange
      return .double (Binary64.zero isNegative)
    fromParts isNegative significand (if isDown then e - value else e + value)

/-- Reads an exponent; the next character is its mark. -/
def exponent (isNegative : Bool) (significand : Nat) (e : Int) : Reader Number := do
  bump
  exponentDigits isNegative significand e (← exponentSign)

/-- Reads what may follow the digits of a fraction. -/
def afterFraction (isNegative : Bool) (significand : Nat) (e : Int) : Reader Number := do
  match ← peek with
  | some 'e' | some 'E' => exponent isNegative significand e
  | _ => fromParts isNegative significand e

/-- Reads a fraction; the next character is its point. -/
def fraction (isNegative : Bool) (significand : Nat) (e : Int) : Reader Number := do
  bump
  let ds ← digits
  if ds.isEmpty then
    match ← peek with
    | some _ => failAhead .invalidNumber
    | none => failAhead .endOfValue
  let (value, dropped) := gather ds significand
  afterFraction isNegative value (e - ((ds.length - dropped : Nat) : Int))

/-- The integer an in-range number without fraction or exponent is. -/
def wholeNumber (isNegative : Bool) (n : Nat) : Number :=
  if !isNegative then .integer n
  else if n == 0 || n > 0x8000000000000000 then
    .double { rounded n with isNegative := true }
  else .integer (-(n : Int))

/-- Reads what may follow the first digits of a number, of which the last ones may have been
dropped. -/
def afterDigits (isNegative : Bool) (value dropped : Nat) : Reader Number := do
  match ← peek with
  | some '.' => fraction isNegative value dropped
  | some 'e' | some 'E' => exponent isNegative value dropped
  | _ =>
    if dropped == 0 then return wholeNumber isNegative value
    else fromParts isNegative value dropped

/-- Reads a number after its sign. -/
def number (isNegative : Bool) : Reader Number := do
  match ← peek with
  | none => fail .endOfValue
  | some c =>
    if !c.isDigit then
      bump
      fail .invalidNumber
    let ds ← do
      if c == '0' then
        bump
        match ← peek with
        | some d => if d.isDigit then failAhead .invalidNumber
        | none => pure ()
        pure ['0']
      else digits
    let (value, dropped) := gather ds 0
    afterDigits isNegative value dropped

/-- Passes a number that is not kept, after its sign. -/
def skipNumber : Reader Unit := do
  match ← next with
  | some '0' =>
    match ← peek with
    | some d => if d.isDigit then failAhead .invalidNumber
    | none => pure ()
  | some c => if c.isDigit then discard digits else fail .invalidNumber
  | none => fail .invalidNumber
  if (← peek) == some '.' then
    bump
    if (← digits).isEmpty then failAhead .invalidNumber
  match ← peek with
  | some 'e' | some 'E' =>
    bump
    match ← peek with
    | some '+' | some '-' => bump
    | _ => pure ()
    match ← next with
    | some c => if c.isDigit then discard digits else fail .invalidNumber
    | none => fail .invalidNumber
  | _ => pure ()

/-! ## Lists and objects -/

/-- Whether another element of a list follows; commas stand between elements. -/
def hasElement (isFirst : Bool) : Reader Bool := do
  match ← peekPart with
  | some ']' => return false
  | some ',' =>
    if isFirst then return true
    bump
    match ← peekPart with
    | some ']' => failAhead .trailingComma
    | some _ => return true
    | none => failAhead .endOfValue
  | some _ => if isFirst then return true else failAhead .expectedListEnd
  | none => failAhead .endOfList

/-- Whether another member of an object follows; commas stand between members. -/
def hasMember (isFirst : Bool) : Reader Bool := do
  match ← peekPart with
  | some '\x7d' => return false
  | some c =>
    if isFirst then
      if c == '"' then return true else failAhead .keyNotString
    else if c == ',' then
      bump
      match ← peekPart with
      | some '"' => return true
      | some '\x7d' => failAhead .trailingComma
      | some _ => failAhead .keyNotString
      | none => failAhead .endOfValue
    else failAhead .expectedObjectEnd
  | none => failAhead .endOfObject

/-- Passes the colon between a key and its value. -/
def colon : Reader Unit := do
  match ← peekPart with
  | some ':' => bump
  | some _ => failAhead .expectedColon
  | none => failAhead .endOfObject

/-- Passes the end of a list. -/
def listEnd : Reader Unit := do
  match ← peekPart with
  | some ']' => bump
  | some ',' =>
    bump
    match ← peekPart with
    | some ']' => failAhead .trailingComma
    | _ => failAhead .trailingCharacters
  | some _ => failAhead .trailingCharacters
  | none => failAhead .endOfList

/-- Passes the end of an object. -/
def objectEnd : Reader Unit := do
  match ← peekPart with
  | some '\x7d' => bump
  | some ',' => failAhead .trailingComma
  | some _ => failAhead .trailingCharacters
  | none => failAhead .endOfObject

/-- Reads elements up to the end of a list. -/
def elements {α : Type} (element : Reader α) : Nat → Bool → Reader (List α)
  | 0, _ => fail .endOfList
  | fuel + 1, isFirst => do
    if ← hasElement isFirst then
      let a ← element
      return a :: (← elements element fuel false)
    return []

/-- Reads members up to the end of an object, each adding to what was read before. -/
def members {σ : Type} (member : σ → String → Reader σ) : Nat → Bool → σ → Reader σ
  | 0, _, _ => fail .endOfObject
  | fuel + 1, isFirst, found => do
    if ← hasMember isFirst then
      let key ← string true
      let found ← member found key
      members member fuel false found
    else return found

/-- Opens a container, unless too many are open. -/
def openContainer (depth : Nat) : Reader Unit := do
  if depth == 0 then failAhead .tooDeep
  bump

/-- Reads a list; the next character is its bracket. -/
def list {α : Type} (depth : Nat) (element : Reader α) : Reader (List α) := do
  openContainer depth
  let found ← elements element (← bound) true
  listEnd
  return found

/-- Reads an object; the next character is its brace. -/
def object {σ : Type} (depth : Nat) (member : σ → String → Reader σ) (none : σ) : Reader σ := do
  openContainer depth
  let found ← members member (← bound) true none
  objectEnd
  return found

/-! ## Values -/

/-- Reads a value that is no container; the next character is `c`. -/
def scalar (c : Char) : Reader Value := do
  match c with
  | 'n' =>
    bump
    word "ull".toList
    return .null
  | 't' =>
    bump
    word "rue".toList
    return .bool true
  | 'f' =>
    bump
    word "alse".toList
    return .bool false
  | '-' =>
    bump
    return .number (← number true)
  | '"' => return .string (← string true)
  | _ => if c.isDigit then return .number (← number false) else failAhead .expectedValue

/-- Reads the value of a member and puts the member before those read so far. -/
def valueMember (element : Reader Value) (found : List (String × Value)) (key : String) :
    Reader (List (String × Value)) := do
  colon
  return (key, ← element) :: found

/-- Reads a value that opens at most `depth` containers inside each other. -/
def value : Nat → Reader Value
  | 0 => do
    match ← peekPart with
    | none => failAhead .endOfValue
    | some '[' | some '\x7b' => failAhead .tooDeep
    | some c => scalar c
  | depth + 1 => do
    match ← peekPart with
    | none => failAhead .endOfValue
    | some '[' => return .array (← list (depth + 1) (value depth))
    | some '\x7b' =>
      let entries ← object (depth + 1) (valueMember (value depth)) []
      return .object (Members.ofEntries entries.reverse)
    | some c => scalar c

/-- Passes elements up to the end of a list. -/
def skipElements (element : Reader Unit) : Nat → Bool → Reader Unit
  | 0, _ => failAhead .endOfList
  | fuel + 1, isFirst => do
    match ← peekPart with
    | some ']' => bump
    | some c =>
      if !isFirst then
        if c == ',' then bump else failAhead .expectedListEnd
      element
      skipElements element fuel false
    | none => failAhead .endOfList

/-- Passes a key and the colon after it. -/
def skipKey : Reader Unit := do
  match ← peekPart with
  | some '"' => discard (string false)
  | some _ => failAhead .keyNotString
  | none => failAhead .endOfObject
  colon

/-- Passes members up to the end of an object. -/
def skipMembers (element : Reader Unit) : Nat → Bool → Reader Unit
  | 0, _ => failAhead .endOfObject
  | fuel + 1, isFirst => do
    match ← peekPart with
    | some '\x7d' => bump
    | some c =>
      if !isFirst then
        if c == ',' then bump else failAhead .expectedObjectEnd
      skipKey
      element
      skipMembers element fuel false
    | none => failAhead .endOfObject

/-- Passes a value whatever it is. -/
def skipValue : Nat → Reader Unit
  | 0 => failAhead .endOfValue
  | fuel + 1 => do
    match ← peekPart with
    | none => failAhead .endOfValue
    | some c =>
      match c with
      | 'n' =>
        bump
        word "ull".toList
      | 't' =>
        bump
        word "rue".toList
      | 'f' =>
        bump
        word "alse".toList
      | '-' =>
        bump
        skipNumber
      | '"' => discard (string false)
      | '[' =>
        bump
        skipElements (skipValue fuel) fuel true
      | '\x7b' =>
        bump
        skipMembers (skipValue fuel) fuel true
      | _ => if c.isDigit then skipNumber else failAhead .expectedValue

end Reader

end ScriptMaps.Json
