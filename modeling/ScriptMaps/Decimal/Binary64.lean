/-!
# Binary floating point numbers

Finite numbers in the 64-bit binary format, held as a sign, a mantissa and an exponent of two, with
exact rounding: to the nearest number of the format, and to the even mantissa from halfway.
-/

namespace ScriptMaps.Decimal

/-- The number `mantissa * 2 ^ exponent`, or its negative. -/
structure Binary64 where
  isNegative : Bool
  mantissa : Nat
  exponent : Int
  deriving Repr, DecidableEq, Inhabited

namespace Binary64

/-- The exponent of the smallest numbers of the format. -/
def leastExponent : Int := -1074

/-- The exponent of the largest numbers of the format. -/
def greatestExponent : Int := 971

/-- The power of two that every mantissa is below. -/
def mantissaLimit : Nat := Nat.pow 2 53

/-- Zero, with a sign. -/
def zero (isNegative : Bool) : Binary64 := ⟨isNegative, 0, leastExponent⟩

/-- The number of binary digits of a number. -/
def bitLength (n : Nat) : Nat := if n == 0 then 0 else n.log2 + 1

/-- A power as a fraction: numerator and denominator. -/
def power (base : Nat) (e : Int) : Nat × Nat :=
  if e < 0 then (1, Nat.pow base e.natAbs) else (Nat.pow base e.natAbs, 1)

/-- A quotient rounded to the nearest number, from halfway to the even one. -/
def divideToEven (num den : Nat) : Nat :=
  let q := num / den
  let r := num % den
  if 2 * r > den || (2 * r == den && q % 2 == 1) then q + 1 else q

/-- A fraction as a multiple of a power of two, rounded. -/
def quotient (num den : Nat) (e : Int) : Nat :=
  let (up, down) := power 2 e
  divideToEven (num * down) (den * up)

/-- Whether a fraction as a multiple of a power of two is below the limit of mantissas. -/
def fits (num den : Nat) (e : Int) : Bool :=
  let (up, down) := power 2 e
  num * down < den * up * mantissaLimit

/-- The exponent of the power of two that a fraction is rounded to a multiple of. -/
def exponentFor (num den : Nat) : Int :=
  let guess : Int := (bitLength num : Int) - (bitLength den : Int) - 53
  max leastExponent (if fits num den guess then guess else guess + 1)

/-- A number, unless its exponent is out of range. -/
def inRange (x : Binary64) : Option Binary64 :=
  if x.exponent > greatestExponent then none else some x

/-- A number from a mantissa that may have reached the limit. -/
def ofParts (isNegative : Bool) (mantissa : Nat) (e : Int) : Option Binary64 :=
  if mantissa == mantissaLimit then inRange ⟨isNegative, mantissa / 2, e + 1⟩
  else inRange ⟨isNegative, mantissa, e⟩

/-- The number of the format nearest to a fraction, unless that is out of range. -/
def round (isNegative : Bool) (num den : Nat) : Option Binary64 :=
  if num == 0 then some (zero isNegative)
  else
    let e := exponentFor num den
    ofParts isNegative (quotient num den e) e

/-- The absolute value as a fraction. -/
def toFraction (x : Binary64) : Nat × Nat :=
  let (up, down) := power 2 x.exponent
  (x.mantissa * up, down)

/-- Whether a number is zero. -/
def isZero (x : Binary64) : Bool := x.mantissa == 0

/-- The number of the format nearest to `digits * 10 ^ e`, unless that is out of range. -/
def ofDecimal (isNegative : Bool) (digits : Nat) (e : Int) : Option Binary64 :=
  if digits == 0 then some (zero isNegative)
  else if e > 310 then none
  else if e + (bitLength digits : Int) < -330 then some (zero isNegative)
  else
    let (up, down) := power 10 e
    round isNegative (digits * up) down

/-- The number of the format nearest to a product, unless that is out of range. -/
def multiply (x y : Binary64) : Option Binary64 :=
  let (a, b) := x.toFraction
  let (c, d) := y.toFraction
  round (x.isNegative != y.isNegative) (a * c) (b * d)

/-- The number of the format nearest to a quotient, unless that is out of range. -/
def divide (x y : Binary64) : Option Binary64 :=
  let (a, b) := x.toFraction
  let (c, d) := y.toFraction
  round (x.isNegative != y.isNegative) (a * d) (b * c)

/-- The natural number a number is, if it is one. -/
def toNat? (x : Binary64) : Option Nat :=
  let (num, den) := x.toFraction
  if !x.isNegative && num % den == 0 then some (num / den) else none

end Binary64

end ScriptMaps.Decimal
