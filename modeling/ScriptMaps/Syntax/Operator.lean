/-!
# Operators and literals

The closed vocabularies of expressions, each with its spelling.
-/

namespace ScriptMaps.Syntax

/-- Operators that stand before one operand. -/
inductive UnaryOp where
  | minus | plus | not | bitNot | typeof | void | delete
  deriving Repr, DecidableEq, Inhabited

/-- How a unary operator is written. -/
def UnaryOp.text : UnaryOp → String
  | .minus => "-"
  | .plus => "+"
  | .not => "!"
  | .bitNot => "~"
  | .typeof => "typeof"
  | .void => "void"
  | .delete => "delete"

/-- Whether a unary operator is spelled as a word. -/
def UnaryOp.isWord : UnaryOp → Bool
  | .typeof | .void | .delete => true
  | _ => false

/-- Stepping a variable up or down. -/
inductive UpdateOp where
  | increment | decrement
  deriving Repr, DecidableEq, Inhabited

/-- How an update operator is written. -/
def UpdateOp.text : UpdateOp → String
  | .increment => "++"
  | .decrement => "--"

/-- Operators between two operands. -/
inductive BinaryOp where
  | eqEq | notEq | eqEqEq | notEqEq | lt | le | gt | ge | shl | shr | ushr
  | add | sub | mul | div | mod | bitOr | bitXor | bitAnd | or | and | isIn | instanceOf | pow
  | coalesce
  deriving Repr, DecidableEq, Inhabited

/-- How a binary operator is written. -/
def BinaryOp.text : BinaryOp → String
  | .eqEq => "=="
  | .notEq => "!="
  | .eqEqEq => "==="
  | .notEqEq => "!=="
  | .lt => "<"
  | .le => "<="
  | .gt => ">"
  | .ge => ">="
  | .shl => "<<"
  | .shr => ">>"
  | .ushr => ">>>"
  | .add => "+"
  | .sub => "-"
  | .mul => "*"
  | .div => "/"
  | .mod => "%"
  | .bitOr => "|"
  | .bitXor => "^"
  | .bitAnd => "&"
  | .or => "||"
  | .and => "&&"
  | .isIn => "in"
  | .instanceOf => "instanceof"
  | .pow => "**"
  | .coalesce => "??"

/-- Whether a binary operator is spelled as a word. -/
def BinaryOp.isWord : BinaryOp → Bool
  | .isIn | .instanceOf => true
  | _ => false

/-- How tightly a binary operator binds: the larger binds first. -/
def BinaryOp.precedence : BinaryOp → Nat
  | .coalesce | .or => 1
  | .and => 2
  | .bitOr => 3
  | .bitXor => 4
  | .bitAnd => 5
  | .eqEq | .notEq | .eqEqEq | .notEqEq => 6
  | .lt | .le | .gt | .ge | .isIn | .instanceOf => 7
  | .shl | .shr | .ushr => 8
  | .add | .sub => 9
  | .mul | .div | .mod => 10
  | .pow => 11

/-- An assignment stores a value as it is or combines it with the old one first. -/
inductive AssignOp where
  | plain
  | compound (op : BinaryOp)
  deriving Repr, DecidableEq, Inhabited

/-- How an assignment operator is written. -/
def AssignOp.text : AssignOp → String
  | .plain => "="
  | .compound op => op.text ++ "="

/-- The keyword of a variable declaration. -/
inductive VariableKind where
  | var | let | const
  deriving Repr, DecidableEq, Inhabited

/-- How a variable declaration begins. -/
def VariableKind.text : VariableKind → String
  | .var => "var"
  | .let => "let"
  | .const => "const"

/-- What a class method is: plain, a getter or a setter. -/
inductive MethodKind where
  | method | getter | setter
  deriving Repr, DecidableEq, Inhabited

/-- How far a module is taken in when it is imported, short of running it. -/
inductive ImportPhase where
  | defer | source
  deriving Repr, DecidableEq, Inhabited

/-- How a phase is written. -/
def ImportPhase.text : ImportPhase → String
  | .defer => "defer"
  | .source => "source"

/-- The phase a word stands for, if it does. -/
def ImportPhase.ofWord? : String → Option ImportPhase
  | "defer" => some .defer
  | "source" => some .source
  | _ => none

/--
Literals keep the text they were written with. A string literal also keeps its value as a list of
code points, in which a half of a surrogate pair may stand alone.
-/
inductive Literal where
  | null
  | bool (value : Bool)
  | str (value : List Nat) (raw : String)
  | num (raw : String)
  | bigint (raw : String)
  | regex (body flags : String)
  deriving Repr, DecidableEq, Inhabited

end ScriptMaps.Syntax
