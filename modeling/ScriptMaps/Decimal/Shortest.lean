import ScriptMaps.Decimal.Binary64

/-!
# Shortest decimals

The decimal with the fewest digits that rounds to a given number of the binary format, and of those
the nearest, with the two ways it is written out.
-/

namespace ScriptMaps

/-- The number `digits * 10 ^ exponent`. -/
structure Decimal where
  digits : Nat
  exponent : Int
  deriving Repr, DecidableEq, Inhabited

namespace Decimal

/-- The exponent of the power of ten at or below a fraction that is at least one. -/
def digitsAbove : Nat → Nat → Nat → Nat
  | 0, _, _ => 0
  | fuel + 1, num, den => if num < den * 10 then 0 else digitsAbove fuel num (den * 10) + 1

/-- How often a fraction below one can be multiplied by ten until it is at least one. -/
def digitsBelow : Nat → Nat → Nat → Nat
  | 0, _, _ => 0
  | fuel + 1, num, den => if num ≥ den then 0 else digitsBelow fuel (num * 10) den + 1

/-- The exponent of the power of ten at or below a positive fraction. -/
def magnitude (num den : Nat) : Int :=
  if num ≥ den then digitsAbove 400 num den else -(digitsBelow 400 num den : Int)

/-- The nearest of the decimals with `count` digits around a number that round to it. -/
def candidate? (x : Binary64) (num den : Nat) (top : Int) (count : Nat) : Option Decimal :=
  let e := top - (count : Int) + 1
  let (up, down) := Binary64.power 10 e
  let scaled := num * down
  let unit := den * up
  let floor := scaled / unit
  let goesBack (d : Nat) : Bool := Binary64.ofDecimal x.isNegative d e == some x
  let nearFloor := 2 * (scaled % unit) ≤ unit
  match goesBack floor, goesBack (floor + 1) with
  | true, true => some ⟨if nearFloor then floor else floor + 1, e⟩
  | true, false => some ⟨floor, e⟩
  | false, true => some ⟨floor + 1, e⟩
  | false, false => none

/-- The first candidate from `count` digits on. -/
def firstCandidate (x : Binary64) (num den : Nat) (top : Int) : Nat → Nat → Decimal
  | 0, count =>
    let e := top - (count : Int) + 1
    let (up, down) := Binary64.power 10 e
    ⟨num * down / (den * up), e⟩
  | fuel + 1, count =>
    match candidate? x num den top count with
    | some d => d
    | none => firstCandidate x num den top fuel (count + 1)

/-- Moves the zeros at the end of a decimal into its exponent. -/
def stripZeros : Nat → Decimal → Decimal
  | 0, d => d
  | fuel + 1, d =>
    if d.digits != 0 && d.digits % 10 == 0 then stripZeros fuel ⟨d.digits / 10, d.exponent + 1⟩
    else d

/-- The shortest decimal that rounds to a number, its sign aside. -/
def shortest (x : Binary64) : Decimal :=
  if x.isZero then ⟨0, 0⟩
  else
    let (num, den) := x.toFraction
    stripZeros 20 (firstCandidate x num den (magnitude num den) 17 1)

/-- A run of zeros. -/
def zeros (n : Nat) : String := String.ofList (List.replicate n '0')

/-- A decimal written out with all its digits and no exponent. -/
def positional (d : Decimal) : String :=
  let text := toString d.digits
  if d.digits == 0 then "0"
  else if d.exponent ≥ 0 then text ++ zeros d.exponent.toNat
  else
    let places := d.exponent.natAbs
    if text.length > places then
      let whole := text.length - places
      String.ofList (text.toList.take whole) ++ "." ++ String.ofList (text.toList.drop whole)
    else "0." ++ zeros (places - text.length) ++ text

/-- A decimal with a fraction, or with an exponent if it is very large or very small. -/
def scientific (d : Decimal) : String :=
  let text := toString d.digits
  let top : Int := (text.length : Int) + d.exponent
  if d.digits == 0 then "0.0"
  else if 0 ≤ d.exponent && top ≤ 16 then d.positional ++ ".0"
  else if -5 < top && top ≤ 16 then d.positional
  else
    let e := top - 1
    let tail := (if e < 0 then "e-" else "e+") ++ toString e.natAbs
    if text.length == 1 then text ++ tail
    else String.ofList (text.toList.take 1) ++ "." ++ String.ofList (text.toList.drop 1) ++ tail

end Decimal

end ScriptMaps
