import Refactory.Grammar.Position
import Refactory.Tree.Expr

/-! # Expressions of the full grammar

The full grammar has more forms than the tree models. A form that the tree keeps as captured text
carries the stretch of source that it covers; the others do not need it. -/

namespace Refactory.Grammar

mutual

/-- An expression of the full grammar. -/
inductive Term
  | name (id : Text)
  | string (value : Text) (unicode : Bool)
  | bytes (span : Span) (value : List Nat)
  | number (value : Number)
  | truth (value : Bool)
  | noneLiteral
  | ellipsis (span : Span)
  | call (func : Term) (args : List Term) (keywords : List Argument)
  | binary (left : Term) (op : BinaryOp) (right : Term)
  | unary (op : UnaryOp) (operand : Term)
  | logical (op : BoolOp) (values : List Term)
  | compare (left : Term) (ops : List CompareOp) (comparators : List Term)
  | attribute (value : Term) (attr : Text)
  | subscript (span : Span) (value : Term) (index : Term)
  | slice (span : Span) (lower upper step : Option Term)
  | starred (value : Term)
  | tuple (elements : List Term)
  | list (elements : List Term)
  | set (span : Span) (elements : List Term)
  | dict (keys : List (Option Term)) (values : List Term)
  | formatted (span : Span) (parts : List Part)
  | lambda (span : Span) (params : Params) (body : Term)
  | conditional (span : Span) (test body orelse : Term)
  | named (span : Span) (id : Text) (value : Term)
  | listComp (span : Span) (element : Term) (clauses : List Clause)
  | setComp (span : Span) (element : Term) (clauses : List Clause)
  | dictComp (span : Span) (key value : Term) (clauses : List Clause)
  | generator (span : Span) (element : Term) (clauses : List Clause)
  | await (span : Span) (value : Term)
  | yield (span : Span) (value : Option Term)
  | yieldFrom (span : Span) (value : Term)

/-- A keyword argument; without a name it is unpacked. -/
inductive Argument
  | mk (arg : Option Text) (value : Term)

/-- A part of a formatted string: text, or a field with its conversion and the parts of its
format. -/
inductive Part
  | text (value : Text)
  | field (value : Term) (conversion : Option Char) (spec : Option (List Part))

/-- One `for` of a comprehension with the conditions behind it. -/
inductive Clause
  | mk (isAsync : Bool) (target iter : Term) (conditions : List Term)

/-- A name in a parameter list. -/
inductive ParamName
  | mk (name : Text) (hint : Option Term)

/-- A parameter list by the way in which arguments reach the parameters. The defaults belong to the
last of the positional parameters; every keyword-only parameter has its own. -/
inductive Params
  | mk (positionalOnly positional : List ParamName) (varPositional : Option ParamName)
      (keywordOnly : List ParamName) (keywordDefaults : List (Option Term))
      (varKeyword : Option ParamName) (defaults : List Term)

end

instance : Inhabited Term := ⟨.noneLiteral⟩

instance : Inhabited Params := ⟨.mk [] [] none [] [] none []⟩

end Refactory.Grammar
