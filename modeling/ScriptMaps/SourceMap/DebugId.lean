/-!
# Debug identifiers

A map may carry an identifier that ties it to the code it was made for. There are two kinds: a UUID
of 128 bits, written with dashes or without, and the older time stamp of 32 bits. An appendix of up
to 32 bits may follow either. An identifier is read in any of its spellings and written in one.
-/

namespace ScriptMaps.SourceMap

/-- A debug identifier and its appendix, which is zero if there is none. -/
inductive DebugId where
  | uuid (bits appendix : Nat)
  | timestamp (seconds appendix : Nat)
  deriving Repr, DecidableEq, Inhabited

namespace DebugId

/-! ## Reading -/

/-- The value of a hexadecimal digit. -/
def hexDigit? (c : Char) : Option Nat :=
  if c.isDigit then some (c.toNat - '0'.toNat)
  else if 'a' ≤ c && c ≤ 'f' then some (c.toNat - 'a'.toNat + 10)
  else if 'A' ≤ c && c ≤ 'F' then some (c.toNat - 'A'.toNat + 10)
  else none

/-- The number that hexadecimal digits stand for, of which there has to be one. -/
def hexNumber? (digits : List Char) : Option Nat :=
  if digits.isEmpty then none
  else digits.foldlM (fun n c => (hexDigit? c).map (n * 16 + ·)) 0

/-- The number that hexadecimal digits stand for, before which a plus sign may stand. -/
def hexWord? : List Char → Option Nat
  | '+' :: digits => hexNumber? digits
  | digits => hexNumber? digits

/-- Where dashes part the digits of a UUID. -/
def dashes : List Nat := [8, 13, 18, 23]

/-- The bits of a UUID, written with dashes or without. -/
def uuidBits? (isDashed : Bool) (text : List Char) : Option Nat := do
  if isDashed && !dashes.all (fun i => text[i]? == some '-') then none
  let digits := if isDashed then text.filter (· != '-') else text
  if digits.length != 32 then none
  hexNumber? digits

/-- The appendix of a UUID. A dash stands before it if dashes part the UUID; of its digits, only the
first eight count. -/
def appendix? (isDashed : Bool) : List Char → Option Nat
  | [] => some 0
  | c :: rest =>
    if isDashed then (if c == '-' then hexWord? (rest.take 8) else none)
    else hexWord? ((c :: rest).take 8)

/-- Reads an identifier. A text too short for a UUID is a time stamp of eight digits and its
appendix, before which a dash may stand. -/
def parse? (text : String) : Option DebugId :=
  let chars := text.toList
  let isDashed := chars[8]? == some '-'
  let stampLength := if isDashed then 9 else 8
  if stampLength < chars.length && chars.length ≤ stampLength + 8 then do
    return timestamp (← hexWord? (chars.take 8)) (← hexWord? (chars.drop stampLength))
  else do
    let length := if isDashed then 36 else 32
    return uuid (← uuidBits? isDashed (chars.take length))
      (← appendix? isDashed (chars.drop length))

/-! ## Writing -/

/-- The hexadecimal digits of a number, padded with zeros. -/
def hexDigits (width n : Nat) : List Char :=
  let digits := Nat.toDigits 16 n
  List.replicate (width - digits.length) '0' ++ digits

/-- The digits of a UUID with dashes between them. -/
def dashed (digits : List Char) : List Char :=
  let part (start count : Nat) : List Char := (digits.drop start).take count
  part 0 8 ++ '-' :: part 8 4 ++ '-' :: part 12 4 ++ '-' :: part 16 4 ++ '-' :: part 20 12

/-- The appendix as it is written after its identifier. -/
def appendixText (n : Nat) : List Char := if n == 0 then [] else '-' :: hexDigits 1 n

/-- An identifier as text: a UUID with dashes and small letters, a time stamp with capitals. -/
def text : DebugId → String
  | uuid bits appendix => String.ofList (dashed (hexDigits 32 bits) ++ appendixText appendix)
  | timestamp seconds appendix =>
    String.ofList ((hexDigits 8 seconds).map Char.toUpper ++ appendixText appendix)

end DebugId

end ScriptMaps.SourceMap
