import ScriptMaps.Text.CharacterClass

/-!
# Comment filters

A filter names the comments that are not printed. The only one the library has of its own drops the
comments that refer to a map, because whoever writes the map also writes the reference.
-/

namespace ScriptMaps

/-- The comments to be dropped: a pattern that describes their texts, and whether a text is one. -/
structure CommentFilter where
  pattern : String
  rejects : String → Bool
  deriving Inhabited

namespace CommentFilter

/-- A text without the blanks before it. -/
def skipBlanks (text : List Char) : List Char := text.dropWhile Text.isWhiteSpace

/-- What a reference says after its sign. -/
def referenceWord : List Char := "sourceMappingURL=".toList

/-- Whether a text refers to a map: a sign and the word, with blanks before each. -/
def isMapReference (text : String) : Bool :=
  match skipBlanks text.toList with
  | c :: rest => (c == '#' || c == '@') && referenceWord.isPrefixOf (skipBlanks rest)
  | [] => false

/-- The filter that drops references to maps. -/
def mapReferences : CommentFilter where
  pattern := "^\\s*[#@]\\s*sourceMappingURL="
  rejects := isMapReference

end CommentFilter

end ScriptMaps
