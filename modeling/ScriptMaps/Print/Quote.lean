import ScriptMaps.Syntax.Lexer

/-!
# Strings and templates in compact code

Texts written with as few escapes as possible.
-/

namespace ScriptMaps.Print

open ScriptMaps.Syntax

/-- The digits of a number in hexadecimal, padded with zeros. -/
def paddedHex (width n : Nat) : String :=
  let digits := Nat.toDigits 16 n
  String.ofList (List.replicate (width - digits.length) '0' ++ digits)

/-- Whether a code point is a decimal digit. -/
def isDigitPoint (n : Nat) : Bool := 0x30 ≤ n && n ≤ 0x39

/-- A code point inside a string literal; `next` is the one after it. -/
def quotedPoint (quote : Nat) (n : Nat) (next : Option Nat) : String :=
  if n == 0 then (if (next.map isDigitPoint).getD false then "\\x00" else "\\0")
  else if n == 8 then "\\b"
  else if n == 12 then "\\f"
  else if n == 10 then "\\n"
  else if n == 13 then "\\r"
  else if n == 11 then "\\v"
  else if n == 9 then "\t"
  else if n == 0x5c then "\\\\"
  else if n == quote then "\\" ++ (Char.ofNat n).toString
  else if n < 0x20 then "\\x" ++ paddedHex 2 n
  else if n == 0x2028 then "\\u2028"
  else if n == 0x2029 then "\\u2029"
  else if n == 0xfeff then "\\uFEFF"
  else if 0xd800 ≤ n && n ≤ 0xdfff then "\\u" ++ (paddedHex 4 n).toUpper
  else (Char.ofNat n).toString

/-- The code points of a string literal between its quotes. -/
def quotedPoints (quote : Nat) : List Nat → String
  | [] => ""
  | n :: rest => quotedPoint quote n rest.head? ++ quotedPoints quote rest

/-- Halves of surrogate pairs that stand together joined to one code point. -/
def joinPairs : List Nat → List Nat
  | high :: low :: rest =>
    if 0xd800 ≤ high && high ≤ 0xdbff && 0xdc00 ≤ low && low ≤ 0xdfff then
      (0x10000 + (high - 0xd800) * 0x400 + (low - 0xdc00)) :: joinPairs rest
    else high :: joinPairs (low :: rest)
  | rest => rest

/-- A string literal in the kind of quotes that takes fewer escapes. -/
def quote (value : List Nat) : String :=
  let points := joinPairs value
  let single := points.count 0x27
  let double := points.count 0x22
  let mark := if double > single then 0x27 else 0x22
  let text := (Char.ofNat mark).toString
  text ++ quotedPoints mark points ++ text

/-! ## Templates -/

/-- A character of a template that was written as such or as an escape that is not needed. -/
def templateChar (c : Char) (next : Option Char) : String :=
  let n := c.toNat
  if n == 0 then
    (if (next.map fun d => d != '0' && d.isDigit).getD false then "\\x00" else "\\0")
  else if n == 8 then "\\b"
  else if n == 12 then "\\f"
  else if n == 11 then "\\v"
  else if 0x7f ≤ n && n ≤ 0xff then "\\x" ++ paddedHex 2 n
  else if n == 0x2028 then "\\u2028"
  else if n == 0x2029 then "\\u2029"
  else if n == 0xfeff then "\\uFEFF"
  else c.toString

/-- A character written by its hexadecimal code, followed by the character after the code. -/
def templateHex (value : Nat) (next : Option Char) : String :=
  let text :=
    if value == 0 then
      (if (next.map fun d => d != '0' && d.isDigit).getD false then "\\x00" else "\\0")
    else if value == 8 then "\\b"
    else if value == 9 then "\\t"
    else if value == 10 then "\\n"
    else if value == 11 then "\\v"
    else if value == 12 then "\\f"
    else if value == 13 then "\\r"
    else if 0x20 ≤ value && value ≤ 0x7e then (Char.ofNat value).toString
    else "\\x" ++ paddedHex 2 value
  text ++ (next.map Char.toString).getD ""

/-- Escapes of a template that are kept. -/
def keptEscapes : List Char :=
  ['\\', 'r', 'v', 'b', 'f', 'u', '\r', '\n', '`', '0', '1', '2', '3', '4', '5', '6', '7']

/-- The text of a template with fewer escapes; `fuel` is at least its length. -/
def compactTemplateFrom : Nat → Bool → List Char → String
  | 0, _, _ => ""
  | fuel + 1, afterDollar, text =>
    match text with
    | [] => ""
    | '\\' :: rest =>
      match rest with
      | [] => "\\"
      | c :: rest =>
        if c == 'n' then "\n" ++ compactTemplateFrom fuel afterDollar rest
        else if c == 't' then "\t" ++ compactTemplateFrom fuel afterDollar rest
        else if c == 'x' then
          let ds := (rest.take 2).takeWhile (isDigitOf .hexadecimal)
          let after := rest.drop ds.length
          templateHex (digitsValue 16 ds) after.head?
            ++ compactTemplateFrom fuel afterDollar (after.drop 1)
        else if c.toNat == 0x2028 || c.toNat == 0x2029 then
          compactTemplateFrom fuel afterDollar rest
        else if keptEscapes.contains c || (c == '$' && rest.head? == some '\x7b') then
          "\\" ++ c.toString ++ compactTemplateFrom fuel afterDollar rest
        else if c == '\x7b' && afterDollar then
          "\\\x7b" ++ compactTemplateFrom fuel false rest
        else templateChar c rest.head? ++ compactTemplateFrom fuel (afterDollar || c == '$') rest
    | c :: rest =>
      templateChar c rest.head? ++ compactTemplateFrom fuel (afterDollar || c == '$') rest

/-- Where in the text of a template its lines after the first begin: after a line end, or after what
stands for one. -/
def lineStartsFrom (offset : Nat) : List Char → List Nat
  | [] => []
  | '\n' :: rest => (offset + 1) :: lineStartsFrom (offset + 1) rest
  | '\\' :: 'n' :: rest => (offset + 2) :: lineStartsFrom (offset + 2) rest
  | _ :: rest => lineStartsFrom (offset + 1) rest

/-- Where in the text of a template its lines after the first begin. -/
def lineStarts (raw : String) : List Nat := lineStartsFrom 0 raw.toList

/-- The text of a template with fewer escapes. -/
def compactTemplate (raw : String) : String :=
  compactTemplateFrom (raw.length + 1) false raw.toList

end ScriptMaps.Print
