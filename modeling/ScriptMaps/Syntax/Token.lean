import ScriptMaps.Syntax.Operator
import ScriptMaps.Syntax.Fault

/-!
# Tokens

What a script's text is cut into. A word is one kind of token whatever it means: which words are
reserved depends on where they stand, so that is a set of questions about a word's name. A template
is known by its opening, which tells whether a substitution follows; its parts are read later.
-/

namespace ScriptMaps.Syntax

/-- Tokens without content. -/
inductive Mark where
  | parenOpen | parenClose | braceOpen | braceClose | bracketOpen | bracketClose
  | semicolon | comma | dot | ellipsis | colon | question | arrow | hash | at
  | plusPlus | minusMinus | bang | tilde | backquote | closingAngle
  deriving Repr, DecidableEq, Inhabited

/-- How a mark is written. -/
def Mark.text : Mark → String
  | .parenOpen => "("
  | .parenClose => ")"
  | .braceOpen => "\x7b"
  | .braceClose => "\x7d"
  | .bracketOpen => "["
  | .bracketClose => "]"
  | .semicolon => ";"
  | .comma => ","
  | .dot => "."
  | .ellipsis => "..."
  | .colon => ":"
  | .question => "?"
  | .arrow => "=>"
  | .hash => "#"
  | .at => "@"
  | .plusPlus => "++"
  | .minusMinus => "--"
  | .bang => "!"
  | .tilde => "~"
  | .backquote => "`"
  | .closingAngle => "</"

/-- A token of a script. -/
inductive Token where
  | mark (m : Mark)
  | operator (op : BinaryOp)
  | assignment (op : AssignOp)
  | word (name : String)
  | str (value : List Nat) (raw : String)
  | num (raw : String)
  | bigint (raw : String)
  | regex (body flags : String)
  | template (isWhole : Bool)
  | interpreter (line : String)
  | markupText
  | bad (fault : Fault)
  | eof
  deriving Repr, DecidableEq, Inhabited

/-- Words that always mean the same and never name anything, apart from those below. -/
def keywords : List String :=
  ["break", "case", "catch", "class", "const", "continue", "debugger", "default", "delete", "do",
   "else", "export", "extends", "false", "finally", "for", "function", "if", "import", "in",
   "instanceof", "new", "null", "return", "super", "switch", "this", "throw", "true", "try",
   "typeof", "var", "void", "while", "with"]

/-- Words that are keywords in some places and names in others. -/
def softKeywords : List String := ["await", "let", "yield"]

/-- Words that strict code sets aside. -/
def strictReserved : List String :=
  ["implements", "interface", "package", "private", "protected", "public", "static"]

/-- Names with a meaning of their own in some places, which a fault spells out. -/
def knownNames : List String :=
  ["abstract", "accessor", "any", "as", "assert", "asserts", "async", "bigint", "boolean",
   "declare", "enum", "from", "get", "global", "implements", "infer", "interface",
   "intrinsic", "is", "keyof", "meta", "module", "namespace", "never", "number", "object", "of",
   "out", "override", "package", "private", "protected", "public", "readonly", "require",
   "satisfies", "set", "static", "string", "symbol", "target", "type", "undefined", "unique",
   "unknown", "using"]

/-- Whether a word is a keyword somewhere. -/
def isKeyword (name : String) : Bool := keywords.contains name || softKeywords.contains name

/-- Words that name nothing in any code. -/
def isAlwaysReserved (name : String) : Bool := keywords.contains name || name == "enum"

/-- Words that name nothing in module code. -/
def isReserved (name : String) : Bool :=
  isAlwaysReserved name || softKeywords.contains name || strictReserved.contains name

namespace Token

/-- How a fault names a token. -/
def shown : Token → String
  | mark m => m.text
  | operator op => op.text
  | assignment (.compound .mul) => "*"
  | assignment op => op.text
  | word "instanceof" => "instanceOf"
  | word name => if isKeyword name || knownNames.contains name then name else "ident"
  | str .. => "string literal"
  | num _ => "numeric literal"
  | bigint _ => "bigint literal"
  | regex .. => "regexp literal"
  | template true => "no substitution template literal"
  | template false => "template head"
  | interpreter _ => "#!"
  | markupText => "jsx text"
  | bad _ => "<lexing error>"
  | eof => "<eof>"

/-- Whether a token is a given word. -/
def isWord (t : Token) (name : String) : Bool :=
  match t with
  | word n => n == name
  | _ => false

/-- Whether a token is a word of any kind. -/
def isAnyWord : Token → Bool
  | word _ => true
  | _ => false

/-- Whether a token is a word that may name something. -/
def isName : Token → Bool
  | word name => !isReserved name
  | _ => false

/-- Whether a token is a mark. -/
def isMark (t : Token) (m : Mark) : Bool :=
  match t with
  | mark n => n == m
  | _ => false

/-- The operator between two operands that a token stands for, words apart. -/
def operator? : Token → Option BinaryOp
  | operator op => some op
  | _ => none

/-- Whether a block comment on the line of a token belongs to that token. -/
def admitsBlockComment : Token → Bool
  | mark .semicolon | mark .braceOpen | mark .braceClose => true
  | word name => !isKeyword name
  | str .. | num _ | bigint _ | regex .. | markupText => true
  | _ => false

/-- Whether a line comment on the line of a token belongs to that token. -/
def admitsLineComment : Token → Bool
  | operator _ => false
  | _ => true

/-- Whether an expression may begin with a token. -/
def startsExpression : Token → Bool
  | mark m =>
    match m with
    | .bang | .tilde | .parenOpen | .bracketOpen | .braceOpen | .plusPlus | .minusMinus
    | .hash | .at => true
    | _ => false
  | operator op =>
    match op with
    | .add | .sub | .div | .lt => true
    | _ => false
  | assignment (.compound .div) => true
  | word "let" => false
  | word name =>
    !keywords.contains name
      || ["class", "delete", "false", "function", "import", "new", "null", "super", "this", "throw",
          "true", "typeof", "void"].contains name
  | str .. | num _ | bigint _ | regex .. | template _ => true
  | _ => false

end Token

end ScriptMaps.Syntax
