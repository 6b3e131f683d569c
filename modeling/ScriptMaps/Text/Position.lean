/-!
# Lines and columns

Lines end with a line feed, with a carriage return, or with both as one. No line begins at the end
of a text: the place after a last line end is still in the line that it ends. Lines and columns
count from zero; what a character adds to a column is the caller's choice.
-/

namespace ScriptMaps.Text

/-- A line and a column in it. -/
structure Place where
  line : Nat
  column : Nat
  deriving Repr, DecidableEq, Inhabited

/-- The place after a character; `next` is the character after it, if there is one. -/
def Place.after (width : Char → Nat) (p : Place) (c : Char) (next : Option Char) : Place :=
  if next.isSome && (c == '\n' || (c == '\r' && next != some '\n')) then ⟨p.line + 1, 0⟩
  else ⟨p.line, p.column + width c⟩

/-- The places of all characters of a text and of its end. -/
def placesFrom (width : Char → Nat) (p : Place) : List Char → List Place
  | [] => [p]
  | c :: cs => p :: placesFrom width (p.after width c cs.head?) cs

/-- The places of all characters of a text and of its end. -/
def places (width : Char → Nat) (text : List Char) : List Place := placesFrom width ⟨0, 0⟩ text

/-- The place of a position, which counts characters from 1. -/
def placeOf (width : Char → Nat) (text : List Char) (pos : Nat) : Place :=
  (places width text).getD (pos - 1) ⟨0, 0⟩

end ScriptMaps.Text
