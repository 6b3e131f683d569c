import ScriptMaps.Decimal.Shortest
import ScriptMaps.Syntax.Lexer

/-!
# Numbers in compact code

The shortest way a number can be written in a script.
-/

namespace ScriptMaps.Print

open ScriptMaps.Decimal
open ScriptMaps.Syntax

/-- The value of the digits of a radix that is a power of two, rounded after each digit. -/
def radixValue (base : Nat) (digits : List Char) : Option Binary64 :=
  digits.foldl
    (fun total c => do
      let (num, den) := (← total).toFraction
      Binary64.round false (num * base + (digitValue? c).getD 0 * den) den)
    (some (Binary64.zero false))

/-- The value of a decimal literal without separators. -/
def decimalValue (text : List Char) : Option Binary64 :=
  let whole := text.takeWhile Char.isDigit
  let rest := text.dropWhile Char.isDigit
  let (fraction, rest) :=
    match rest with
    | '.' :: r => (r.takeWhile Char.isDigit, r.dropWhile Char.isDigit)
    | r => ([], r)
  let e : Int :=
    match rest with
    | _ :: '-' :: ds => -(digitsValue 10 ds : Int)
    | _ :: '+' :: ds => digitsValue 10 ds
    | _ :: ds => digitsValue 10 ds
    | [] => 0
  Binary64.ofDecimal false (digitsValue 10 (whole ++ fraction)) (e - fraction.length)

/-- The value of a number literal; none if it is out of range. -/
def literalValue (raw : String) : Option Binary64 :=
  match raw.toList.filter (· != '_') with
  | '0' :: 'x' :: ds | '0' :: 'X' :: ds => radixValue 16 ds
  | '0' :: 'o' :: ds | '0' :: 'O' :: ds => radixValue 8 ds
  | '0' :: 'b' :: ds | '0' :: 'B' :: ds => radixValue 2 ds
  | text => decimalValue text

/-- The digits of a number in hexadecimal. -/
def hexText (n : Nat) : String := String.ofList (Nat.toDigits 16 n)

/-- How many zeros a text begins with. -/
def leadingZeros (text : List Char) : Nat := (text.takeWhile (· == '0')).length

/-- A number written out, shortened where an exponent or a missing zero makes it shorter. -/
def shortenPositional (text : String) : String :=
  let chars := text.toList
  if text.startsWith "0." then
    let fraction := chars.drop 2
    let count := leadingZeros fraction
    if count > 2 then
      String.ofList (fraction.drop count) ++ "e-" ++ toString fraction.length
    else "." ++ String.ofList fraction
  else
    let count := leadingZeros chars.reverse
    if count ≥ 3 then String.ofList (chars.take (chars.length - count)) ++ "e" ++ toString count
    else text

/-- The whole number that a number is written as in hexadecimal in compact code, if it is: one of
eight digits or more that no exponent shortens, and that a word of 64 bits holds. The number next to
the greatest of these counts as that. -/
def hexValue? (x : Binary64) : Option Nat :=
  match x.toNat? with
  | some n =>
    if 10000000 ≤ n && n ≤ 0x10000000000000000 && n % 1000 != 0 then
      some (min n 0xFFFFFFFFFFFFFFFF)
    else none
  | none => none

/-- A number in compact code. One that is out of range stays as it is. -/
def compactNumber (raw : String) : String :=
  match literalValue raw with
  | none => raw
  | some x =>
    match hexValue? x with
    | some n => "0x" ++ hexText n
    | none => shortenPositional (shortest x).positional

/-- Whether a number in compact code needs a second dot before the name of a member. -/
def compactLacksDot (raw : String) : Bool :=
  match literalValue raw with
  | none => true
  | some x => (hexValue? x).isNone && (compactNumber raw).toList.all fun c => c != '.' && c != 'e'

/-- Whether a number written as in the source needs a second dot before the name of a member. -/
def rawLacksDot (raw : String) : Bool :=
  let digits := raw.toList.filter (· != '_')
  digits.all Char.isDigit && !(digits.length ≥ 2 && digits.head? == some '0')

/-- A big integer in compact code. -/
def compactBigInt (raw : String) : String :=
  let digits := (raw.toList.filter (· != '_')).dropLast
  let value :=
    match digits with
    | '0' :: 'x' :: ds | '0' :: 'X' :: ds => digitsValue 16 ds
    | '0' :: 'o' :: ds | '0' :: 'O' :: ds => digitsValue 8 ds
    | '0' :: 'b' :: ds | '0' :: 'B' :: ds => digitsValue 2 ds
    | ds => digitsValue 10 ds
  (if value ≥ 10000000000000000 then "0x" ++ hexText value else toString value) ++ "n"

end ScriptMaps.Print
