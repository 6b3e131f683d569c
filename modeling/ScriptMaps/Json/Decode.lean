import ScriptMaps.Json.Reader
import ScriptMaps.Text.Shown

/-!
# Reading JSON of a certain form

Readers for texts whose form is known: strings, truth values, small integers, lists, values that may
be missing, and records. A record is an object with known keys or a list of the values under these
keys in their order. What has the wrong form is named in the fault.
-/

namespace ScriptMaps.Json.Reader

open ScriptMaps.Decimal

/-! ## Naming what was found -/

/-- How a number is shown in a fault. -/
def shownNumber : Number → String
  | .integer n => "integer `" ++ toString n ++ "`"
  | .double x => "floating point `" ++ String.ofList (writeDouble x) ++ "`"

/-- How a value that is no container is shown in a fault. -/
def shown : Value → String
  | .null => "null"
  | .bool b => "boolean `" ++ toString b ++ "`"
  | .number n => shownNumber n
  | .string s => "string " ++ Text.shownText s
  | .array _ => "sequence"
  | .object _ => "map"

/-- Stops at a value, which begins with `c` and is not what was wanted. -/
def refuse {α : Type} (c : Char) (wanted : String) : Reader α := do
  if c == '[' then fail (.wrongType "sequence" wanted)
  else if c == '\x7b' then fail (.wrongType "map" wanted)
  else fail (.wrongType (shown (← scalar c)) wanted)

/-- The first character of a value, which has to be there. -/
def valueStart : Reader Char := do
  match ← peekPart with
  | some c => return c
  | none => failAhead .endOfValue

/-! ## Plain forms -/

/-- A string. -/
def text : Reader String := do
  let c ← valueStart
  if c == '"' then string true else refuse c "a string"

/-- A truth value. -/
def flag : Reader Bool := do
  let c ← valueStart
  if c == 't' || c == 'f' then
    match ← scalar c with
    | .bool b => return b
    | _ => return false
  else refuse c "a boolean"

/-- An integer of 32 bits without sign. -/
def natural32 : Reader Nat := do
  let c ← valueStart
  if c == '-' || c.isDigit then
    match ← scalar c with
    | .number (.integer n) =>
      if 0 ≤ n && n ≤ 0xffffffff then return n.toNat
      else fail (.wrongValue (shownNumber (.integer n)) "u32")
    | .number n => fail (.wrongType (shownNumber n) "u32")
    | _ => return 0
  else refuse c "u32"

/-- A value, or `null` for none. -/
def optional {α : Type} (reader : Reader α) : Reader (Option α) := do
  let c ← peekPart
  if c == some 'n' then
    bump
    word "ull".toList
    return none
  return some (← reader)

/-- A list of values. -/
def listOf {α : Type} (depth : Nat) (element : Reader α) : Reader (List α) := do
  let c ← valueStart
  if c == '[' then list depth element else refuse c "a sequence"

/-! ## Records -/

/-- A record being read: its value so far and the keys seen. -/
structure Partial (α : Type) where
  value : α
  seen : List String := []

/-- Stops with a fault that is noticed before the end of a container but reported after it. -/
def failAfter {α : Type} (closing : Reader Unit) (cause : Cause) : Reader α := fun rest =>
  match closing rest with
  | .ok (_, rest) => .error ⟨cause, rest, false⟩
  | .error f => .error ⟨cause, f.rest, false⟩

/-- Reads the member of a record under a key; unknown keys are left to `other`. -/
def recordMember {α : Type} (keys : List String) (field : α → String → Reader α)
    (other : α → String → Reader α) (found : Partial α) (key : String) : Reader (Partial α) := do
  if keys.contains key then
    if found.seen.contains key then failAfter objectEnd (.repeatedField key)
    colon
    return ⟨← field found.value key, key :: found.seen⟩
  colon
  return ⟨← other found.value key, found.seen⟩

/-- Passes the value under an unknown key. -/
def skipOther {α : Type} (found : α) (_ : String) : Reader α := do
  skipValue (← bound)
  return found

/-- A record written as an object. -/
def recordObject {α : Type} (depth : Nat) (keys required : List String)
    (field other : α → String → Reader α) (initial : α) : Reader α := do
  openContainer depth
  let found ← members (recordMember keys field other) (← bound) true ⟨initial, []⟩
  match required.find? (!found.seen.contains ·) with
  | some key => failAfter objectEnd (.missingField key)
  | none => pure ()
  objectEnd
  return found.value

/-- The values of a list as those under the keys of a record; `index` counts them. -/
def recordValues {α : Type} (wanted : String) (required : List String)
    (field : α → String → Reader α) : List String → Nat → α → Reader α
  | [], _, found => return found
  | key :: keys, index, found => do
    if ← hasElement (index == 0) then
      recordValues wanted required field keys (index + 1) (← field found key)
    else
      match required.find? (key :: keys).contains with
      | some _ => failAfter listEnd (.wrongLength index wanted)
      | none => return found

/-- A record written as a list. -/
def recordList {α : Type} (depth : Nat) (name : String) (keys required : List String)
    (field : α → String → Reader α) (initial : α) : Reader α := do
  openContainer depth
  let wanted := name ++ " with " ++ toString keys.length ++ " elements"
  let found ← recordValues wanted required field keys 0 initial
  listEnd
  return found

/-- A record of either form. -/
def record {α : Type} (depth : Nat) (name : String) (keys required : List String)
    (field : α → String → Reader α) (initial : α) : Reader α := do
  let c ← valueStart
  if c == '[' then recordList depth name keys required field initial
  else if c == '\x7b' then recordObject depth keys required field skipOther initial
  else refuse c name

end ScriptMaps.Json.Reader

namespace ScriptMaps.Json

/-- Where a reader stopped: the line, from 1, and the column in bytes. -/
def locate (text : List Char) (f : Failure) : Fault :=
  let before := text.take (text.length - f.rest.length)
  let line := before.count '\n' + 1
  let column := Reader.byteCount (before.reverse.takeWhile (· != '\n'))
  match f.isAhead, f.rest with
  | true, c :: _ => if c == '\n' then ⟨f.cause, line + 1, 0⟩ else ⟨f.cause, line, column + 1⟩
  | _, _ => ⟨f.cause, line, column⟩

/-- Passes the blanks at the end of a text, where nothing else may stand. -/
def Reader.finish : Reader Unit := do
  match ← Reader.peekPart with
  | none => pure ()
  | some _ => Reader.failAhead .trailingCharacters

/-- Reads a whole text. -/
def readText {α : Type} (reader : Reader α) (text : String) : Except Fault α :=
  let whole : Reader α := do
    let a ← reader
    Reader.finish
    return a
  match whole text.toList with
  | .ok (a, _) => .ok a
  | .error f => .error (locate text.toList f)

/-- Reads a text as any JSON value. -/
def parse (text : String) : Except Fault Value := readText (Reader.value depthLimit) text

end ScriptMaps.Json
