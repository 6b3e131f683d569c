import ScriptMaps.Syntax.Node

/-!
# Comments

Comments are no part of a syntax tree. They are kept beside it, each under the position it belongs
to: a leading comment under the position where the token after it begins, a trailing one under the
position where the token before it ends.
-/

namespace ScriptMaps.Syntax

/-- A comment, its text without the delimiters. -/
structure Comment where
  span : Span
  isBlock : Bool
  text : String
  deriving Repr, DecidableEq, Inhabited

/-- Comments under positions; those under one position stand in the order they were written. -/
structure Comments where
  leading : List (Nat × Comment) := []
  trailing : List (Nat × Comment) := []
  deriving Repr, DecidableEq, Inhabited

namespace Comments

/-- The comments of a list that belong to a position. -/
def under (entries : List (Nat × Comment)) (pos : Nat) : List Comment :=
  (entries.filter (·.1 == pos)).map (·.2)

/-- The comments before the token at a position. -/
def leadingAt (c : Comments) (pos : Nat) : List Comment := under c.leading pos

/-- The comments after the token that ends at a position. -/
def trailingAt (c : Comments) (pos : Nat) : List Comment := under c.trailing pos

/-- Adds a comment before the token at a position. -/
def addLeading (c : Comments) (pos : Nat) (x : Comment) : Comments :=
  { c with leading := c.leading ++ [(pos, x)] }

/-- Adds a comment after the token that ends at a position. -/
def addTrailing (c : Comments) (pos : Nat) (x : Comment) : Comments :=
  { c with trailing := c.trailing ++ [(pos, x)] }

/-- Removes the comments before the token at a position. -/
def dropLeading (c : Comments) (pos : Nat) : Comments :=
  { c with leading := c.leading.filter (·.1 != pos) }

/-- Removes the comments after the token that ends at a position. -/
def dropTrailing (c : Comments) (pos : Nat) : Comments :=
  { c with trailing := c.trailing.filter (·.1 != pos) }

/-- Keeps the comments whose text is admitted, wherever they stand. -/
def retain (c : Comments) (admits : String → Bool) : Comments where
  leading := c.leading.filter fun e => admits e.2.text
  trailing := c.trailing.filter fun e => admits e.2.text

end Comments

end ScriptMaps.Syntax
