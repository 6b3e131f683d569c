/-!
# Variable-length integers

An integer is written in base 64 digits of five bits each, the lowest first; the sixth bit of a
digit tells that another follows. The lowest bit of the whole is the sign. Reading computes in 64
bits.
-/

namespace ScriptMaps.SourceMap

/-- The digits of base 64. -/
def base64Digits : List Char :=
  "ABCDEFGHIJKLMNOPQRSTUVWXYZabcdefghijklmnopqrstuvwxyz0123456789+/".toList

/-- The digit for a number below 64. -/
def base64Digit (n : Nat) : Char := base64Digits.getD n 'A'

/-- The number a digit stands for. -/
def base64Value? (c : Char) : Option Nat :=
  let n := base64Digits.idxOf c
  if n < 64 then some n else none

/-- Why segments cannot be read. -/
inductive MapCause where
  | badJson
  | overflow
  | leftover
  | segmentSize (count : Nat)
  | sourceReference (index : Nat)
  | nameReference (index : Nat)
  | badDigit (c : Char)
  | incompatible
  deriving Repr, DecidableEq, Inhabited

/-- The wording of a cause. -/
def MapCause.message : MapCause → String
  | .badJson => "bad json"
  | .overflow => "vlq decode caused an overflow"
  | .leftover => "leftover cur/shift in vlq decode"
  | .segmentSize n => "got " ++ toString n ++ " segments, expected 4 or 5"
  | .sourceReference i => "bad reference to source #" ++ toString i
  | .nameReference i => "bad reference to name #" ++ toString i
  | .badDigit c => "invalid base64 character: " ++ c.toString
  | .incompatible => "encountered incompatible sourcemap format"

namespace Vlq

/-! ## Writing -/

/-- The digits of a number, the lowest first; `fuel` is at least their count. -/
def digitsOf : Nat → Nat → List Nat
  | 0, _ => []
  | fuel + 1, n =>
    if n < 32 then [n] else (n % 32 + 32) :: digitsOf fuel (n / 32)

/-- A number with its sign in the lowest bit. -/
def fold (n : Int) : Nat := if n < 0 then 2 * n.natAbs + 1 else 2 * n.natAbs

/-- An integer as text. -/
def encode (n : Int) : List Char :=
  let folded := fold n
  (digitsOf (folded + 1) folded).map base64Digit

/-! ## Reading -/

/-- A number of any size as one of 64 bits with sign. -/
def wrap64 (n : Int) : Int := Int.bmod n 0x10000000000000000

/-- The integer whose sign is in the lowest bit. -/
def unfold (n : Int) : Int :=
  let half := n / 2
  if n % 2 == 0 then half else wrap64 (-half)

/-- The bytes of a character as digits with the bit that tells that another follows; what is no
digit counts as the highest, and another follows. -/
def digitsOfChar (c : Char) : List Nat :=
  match base64Value? c with
  | some n => [n]
  | none => List.replicate c.utf8Size 63

/-- Reads the integers of a segment. -/
def decodeFrom (sum : Int) (shift : Nat) : List Nat → Except MapCause (List Int)
  | [] => if sum != 0 || shift != 0 then .error .leftover else .ok []
  | d :: ds =>
    if shift ≥ 64 then .error .overflow
    else
      let sum := wrap64 (sum + wrap64 ((d % 32) <<< shift : Nat))
      if d < 32 then (decodeFrom 0 0 ds).map (unfold sum :: ·)
      else decodeFrom sum (shift + 5) ds

/-- Reads the integers of a segment. -/
def decode (text : List Char) : Except MapCause (List Int) :=
  decodeFrom 0 0 (text.flatMap digitsOfChar)

end Vlq

end ScriptMaps.SourceMap
