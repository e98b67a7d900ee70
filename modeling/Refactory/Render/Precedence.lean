import Refactory.Tree.Expr

/-! # Binding strength

How tightly the form of an expression binds, from assignment expressions to atoms. An operand that
binds less tightly than its place requires is put in parentheses. -/

namespace Refactory

/-- Binding strength, the loosest first. -/
inductive Precedence
  | named | tuple | yielding | test | disj | conj | negation | comparison | bitOr | bitXor | bitAnd
  | shift | arith | term | factor | power | await | atom
deriving DecidableEq, Inhabited

namespace Precedence

/-- The place of a strength in the order. -/
def rank : Precedence → Nat
  | named => 1 | tuple => 2 | yielding => 3 | test => 4 | disj => 5 | conj => 6 | negation => 7
  | comparison => 8 | bitOr => 9 | bitXor => 10 | bitAnd => 11 | shift => 12 | arith => 13
  | term => 14 | factor => 15 | power => 16 | await => 17 | atom => 18

/-- The next tighter strength. -/
def next : Precedence → Precedence
  | named => tuple | tuple => yielding | yielding => test | test => disj | disj => conj
  | conj => negation | negation => comparison | comparison => bitOr | bitOr => bitXor
  | bitXor => bitAnd | bitAnd => shift | shift => arith | arith => term | term => factor
  | factor => power | power => await | await => atom | atom => atom

/-- The strength of a captured expression of the given kind. -/
def ofCaptured (kind : Text) : Precedence :=
  if kind = "NamedExpr" then named
  else if kind = "Yield" ∨ kind = "YieldFrom" then yielding
  else if kind = "Lambda" ∨ kind = "IfExp" then test
  else if kind = "Await" then await
  else atom

end Precedence

/-- The strength of a binary operator. -/
def BinaryOp.precedence : BinaryOp → Precedence
  | bitOr => .bitOr
  | bitXor => .bitXor
  | bitAnd => .bitAnd
  | lshift | rshift => .shift
  | add | sub => .arith
  | mult | div | mod | floorDiv | matMult => .term
  | pow => .power

/-- The strengths that a binary operator requires of its operands. Powers group to the right and
take a signed right operand, all others group to the left. -/
def BinaryOp.operands : BinaryOp → Precedence × Precedence
  | pow => (.await, .factor)
  | op => (op.precedence, op.precedence.next)

/-- The strength of a boolean operator. -/
def BoolOp.precedence : BoolOp → Precedence
  | conj => .conj
  | disj => .disj

/-- Puts a text in parentheses if it binds less tightly than `least`. -/
def Precedence.wrap (least : Precedence) (rendered : Text × Precedence) : Text :=
  if rendered.2.rank < least.rank then "(" ++ rendered.1 ++ ")" else rendered.1

end Refactory
