import Refactory.Tree.Stmt

/-! # Equality of trees

Two nodes are equal when their variants and fields are, locations left out. Numbers are compared
by a given test, and a foreign object equals nothing. -/

namespace Refactory

/-- Whether two optional values are both absent, or both present and related. -/
def optionEqual {α : Type} (eq : α → α → Bool) : Option α → Option α → Bool
  | none, none => true
  | some a, some b => eq a b
  | _, _ => false

/-- Whether two lists have the same length and related elements. -/
def listEqual {α : Type} (eq : α → α → Bool) : List α → List α → Bool
  | [], [] => true
  | a :: as, b :: bs => eq a b && listEqual eq as bs
  | _, _ => false

/-- Sameness of numbers: a number is the same as itself, and as those numerically equal. -/
def Number.same (a b : Number) : Bool := a == b || a.equal b

mutual

/-- Equality of expressions, numbers compared by `num`. -/
def Expr.equal (num : Number → Number → Bool) : Expr → Expr → Bool
  | .name a, .name b => a == b
  | .string a, .string b => a == b
  | .number a, .number b => num a b
  | .truth a, .truth b => a == b
  | .noneLiteral, .noneLiteral => true
  | .call f as ks, .call f' as' ks' =>
    f.equal num f' && Expr.equalList num as as' && Expr.equalKeywords num ks ks'
  | .binary a op b, .binary a' op' b' => a.equal num a' && op == op' && b.equal num b'
  | .unary op a, .unary op' a' => op == op' && a.equal num a'
  | .logical op as, .logical op' as' => op == op' && Expr.equalList num as as'
  | .compare a ops as, .compare a' ops' as' =>
    a.equal num a' && ops == ops' && Expr.equalList num as as'
  | .attribute a n, .attribute a' n' => a.equal num a' && n == n'
  | .subscript a b, .subscript a' b' => a.equal num a' && b.equal num b'
  | .starred a, .starred a' => a.equal num a'
  | .tuple as, .tuple as' => Expr.equalList num as as'
  | .list as, .list as' => Expr.equalList num as as'
  | .dict ks vs, .dict ks' vs' => Expr.equalKeys num ks ks' && Expr.equalList num vs vs'
  | .formatted ps, .formatted ps' => Expr.equalPieces num ps ps'
  | .captured k s, .captured k' s' => k == k' && s == s'
  | _, _ => false

/-- Equality of lists of expressions. -/
def Expr.equalList (num : Number → Number → Bool) : List Expr → List Expr → Bool
  | [], [] => true
  | a :: as, b :: bs => a.equal num b && Expr.equalList num as bs
  | _, _ => false

/-- Equality of lists of keyword arguments. -/
def Expr.equalKeywords (num : Number → Number → Bool) : List Keyword → List Keyword → Bool
  | [], [] => true
  | .mk n a :: as, .mk n' b :: bs =>
    n == n' && a.equal num b && Expr.equalKeywords num as bs
  | _, _ => false

/-- Equality of the keys of two dictionaries. -/
def Expr.equalKeys (num : Number → Number → Bool) :
    List (Option Expr) → List (Option Expr) → Bool
  | [], [] => true
  | none :: as, none :: bs => Expr.equalKeys num as bs
  | some a :: as, some b :: bs => a.equal num b && Expr.equalKeys num as bs
  | _, _ => false

/-- Equality of the parts of two formatted strings. -/
def Expr.equalPieces (num : Number → Number → Bool) : List Piece → List Piece → Bool
  | [], [] => true
  | .text a :: as, .text b :: bs => a == b && Expr.equalPieces num as bs
  | .field a c s :: as, .field b c' s' :: bs =>
    a.equal num b && c == c' && s == s' && Expr.equalPieces num as bs
  | _, _ => false

end

/-- Equality of parameters. -/
def Param.equal (num : Number → Number → Bool) (p q : Param) : Bool :=
  p.name == q.name && p.kind == q.kind && optionEqual (Expr.equal num) p.hint q.hint &&
    optionEqual (Expr.equal num) p.default q.default

/-- Equality of function heads. -/
def FunctionHead.equal (num : Number → Number → Bool) (f g : FunctionHead) : Bool :=
  f.name == g.name && listEqual (Param.equal num) f.params g.params &&
    optionEqual (Expr.equal num) f.returns g.returns &&
    Expr.equalList num f.decorators g.decorators && f.isAsync == g.isAsync

/-- Equality of class heads. -/
def ClassHead.equal (num : Number → Number → Bool) (c d : ClassHead) : Bool :=
  c.name == d.name && Expr.equalList num c.bases d.bases &&
    Expr.equalKeywords num c.keywords d.keywords && Expr.equalList num c.decorators d.decorators

mutual

/-- Equality of statements, locations left out. -/
def Stmt.equal (num : Number → Number → Bool) : Stmt → Stmt → Bool
  | .function f b _, .function f' b' _ => f.equal num f' && Stmt.equalBlock num b b'
  | .classDef c b _, .classDef c' b' _ => c.equal num c' && Stmt.equalBlock num b b'
  | .importNames as _, .importNames as' _ => as == as'
  | .importFrom m as l _, .importFrom m' as' l' _ => m == m' && as == as' && l == l'
  | .assign ts v _, .assign ts' v' _ => Expr.equalList num ts ts' && v.equal num v'
  | .ret v _, .ret v' _ => optionEqual (Expr.equal num) v v'
  | .pass _, .pass _ => true
  | .expr v _, .expr v' _ => v.equal num v'
  | .tryExcept b hs e f _, .tryExcept b' hs' e' f' _ =>
    Stmt.equalBlock num b b' && Stmt.equalHandlers num hs hs' && Stmt.equalBlock num e e' &&
      Stmt.equalBlock num f f'
  | .captured k s _, .captured k' s' _ => k == k' && s == s'
  | _, _ => false

/-- Equality of blocks. -/
def Stmt.equalBlock (num : Number → Number → Bool) : List Stmt → List Stmt → Bool
  | [], [] => true
  | a :: as, b :: bs => a.equal num b && Stmt.equalBlock num as bs
  | _, _ => false

/-- Equality of lists of handlers. -/
def Stmt.equalHandlers (num : Number → Number → Bool) : List Handler → List Handler → Bool
  | [], [] => true
  | .mk t n b :: hs, .mk t' n' b' :: hs' =>
    optionEqual (Expr.equal num) t t' && n == n' && Stmt.equalBlock num b b' &&
      Stmt.equalHandlers num hs hs'
  | _, _ => false

end

/-- Equality of modules. -/
def Module.equal (num : Number → Number → Bool) (m n : Module) : Bool :=
  Stmt.equalBlock num m.body n.body

end Refactory
