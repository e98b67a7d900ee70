import Refactory.Number

/-! # Expressions

The closed set of expressions that the library models. What lies outside it is kept as `captured`
source text under the name of its kind; `foreign` stands for an object that is no node at all.

Lists that belong together (the keys and values of a dictionary, the operators and operands of a
comparison) are separate and can differ in length: a walk and the renderer report that. -/

namespace Refactory

/-- Operators between two operands. -/
inductive BinaryOp
  | add | sub | mult | div | mod | pow | lshift | rshift | bitOr | bitXor | bitAnd | floorDiv
  | matMult
deriving DecidableEq, Inhabited

/-- Operators in front of one operand. -/
inductive UnaryOp
  | negation | invert | plus | minus
deriving DecidableEq, Inhabited

/-- Short-circuiting operators. -/
inductive BoolOp
  | conj | disj
deriving DecidableEq, Inhabited

/-- Operators of a comparison chain. -/
inductive CompareOp
  | eq | notEq | lt | ltEq | gt | gtEq | same | notSame | member | notMember
deriving DecidableEq, Inhabited

namespace BinaryOp

/-- How the operator is written. -/
def token : BinaryOp → String
  | add => "+" | sub => "-" | mult => "*" | div => "/" | mod => "%" | pow => "**"
  | lshift => "<<" | rshift => ">>" | bitOr => "|" | bitXor => "^" | bitAnd => "&"
  | floorDiv => "//" | matMult => "@"

/-- All binary operators. -/
def all : List BinaryOp :=
  [add, sub, mult, div, mod, pow, lshift, rshift, bitOr, bitXor, bitAnd, floorDiv, matMult]

end BinaryOp

namespace UnaryOp

/-- How the operator is written. -/
def token : UnaryOp → String
  | negation => "not" | invert => "~" | plus => "+" | minus => "-"

/-- All unary operators. -/
def all : List UnaryOp := [negation, invert, plus, minus]

end UnaryOp

namespace BoolOp

/-- How the operator is written. -/
def token : BoolOp → String
  | conj => "and" | disj => "or"

/-- Both boolean operators. -/
def all : List BoolOp := [conj, disj]

end BoolOp

namespace CompareOp

/-- How the operator is written. -/
def token : CompareOp → String
  | eq => "==" | notEq => "!=" | lt => "<" | ltEq => "<=" | gt => ">" | gtEq => ">="
  | same => "is" | notSame => "is not" | member => "in" | notMember => "not in"

/-- All comparison operators. -/
def all : List CompareOp :=
  [eq, notEq, lt, ltEq, gt, gtEq, same, notSame, member, notMember]

end CompareOp

mutual

/-- An expression. -/
inductive Expr
  | name (id : Text)
  | string (value : Text)
  | number (value : Number)
  | truth (value : Bool)
  | noneLiteral
  | call (func : Expr) (args : List Expr) (keywords : List Keyword)
  | binary (left : Expr) (op : BinaryOp) (right : Expr)
  | unary (op : UnaryOp) (operand : Expr)
  | logical (op : BoolOp) (values : List Expr)
  | compare (left : Expr) (ops : List CompareOp) (comparators : List Expr)
  | attribute (value : Expr) (attr : Text)
  | subscript (value : Expr) (index : Expr)
  | starred (value : Expr)
  | tuple (elements : List Expr)
  | list (elements : List Expr)
  | dict (keys : List (Option Expr)) (values : List Expr)
  | formatted (parts : List Piece)
  | captured (kind : Text) (source : Option Text)
  | foreign (kind : Text)

/-- A keyword argument of a call or a class header; without a name it is unpacked. -/
inductive Keyword
  | mk (arg : Option Text) (value : Expr)

/-- A part of a formatted string: literal text, or a field with its conversion and format. -/
inductive Piece
  | text (value : Text)
  | field (value : Expr) (conversion : Option Text) (spec : Option Text)

end

instance : Inhabited Expr := ⟨.noneLiteral⟩

/-- The name under which the keyword argument is passed. -/
def Keyword.arg : Keyword → Option Text
  | .mk arg _ => arg

/-- The value that the keyword argument passes. -/
def Keyword.value : Keyword → Expr
  | .mk _ value => value

/-- The value of a field. -/
def Piece.value? : Piece → Option Expr
  | .text _ => none
  | .field value _ _ => some value

end Refactory
