import Refactory.Tree.Expr

/-! # Statements and modules

A module is a block of statements. Only function and class definitions and `try` statements own
blocks; every other statement that the library does not model is `captured` whole.

`Stmt.blocks` lists the blocks that a statement owns and `Stmt.exprs` the expressions that it holds
itself, each in the order in which walks visit them. -/

namespace Refactory

/-- A place in the source: the line counted from one, the column in bytes from zero. -/
structure Location where
  line : Int
  column : Int
deriving DecidableEq, Inhabited

/-- A place as reports show it. -/
def Location.render (l : Location) : Text := Text.ofInt l.line ++ ":" ++ Text.ofInt l.column

/-- How an argument reaches a parameter. -/
inductive ParamKind
  | positionalOnly | positional | varPositional | keywordOnly | varKeyword
deriving DecidableEq, Inhabited

/-- A parameter of a function definition. -/
structure Param where
  name : Text
  kind : ParamKind := .positional
  hint : Option Expr := none
  default : Option Expr := none
deriving Inhabited

/-- An imported name and the name it is bound to, if that is given. -/
structure Alias where
  name : Text
  asName : Option Text := none
deriving DecidableEq, Inhabited

/-- A function definition without its body. -/
structure FunctionHead where
  name : Text
  params : List Param := []
  returns : Option Expr := none
  decorators : List Expr := []
  isAsync : Bool := false
deriving Inhabited

/-- A class definition without its body. -/
structure ClassHead where
  name : Text
  bases : List Expr := []
  keywords : List Keyword := []
  decorators : List Expr := []
deriving Inhabited

mutual

/-- A statement. -/
inductive Stmt
  | function (head : FunctionHead) (body : List Stmt) (location : Option Location)
  | classDef (head : ClassHead) (body : List Stmt) (location : Option Location)
  | importNames (names : List Alias) (location : Option Location)
  | importFrom (module : Option Text) (names : List Alias) (level : Int)
      (location : Option Location)
  | assign (targets : List Expr) (value : Expr) (location : Option Location)
  | ret (value : Option Expr) (location : Option Location)
  | pass (location : Option Location)
  | expr (value : Expr) (location : Option Location)
  | tryExcept (body : List Stmt) (handlers : List Handler) (orelse : List Stmt)
      (finalbody : List Stmt) (location : Option Location)
  | captured (kind : Text) (source : Option Text) (location : Option Location)
  | foreign (kind : Text)

/-- A handler of a `try` statement: what it catches, the name it binds, and its body. -/
inductive Handler
  | mk (type : Option Expr) (name : Option Text) (body : List Stmt)

end

instance : Inhabited Stmt := ⟨.pass none⟩

/-- A sequence of statements on one level. -/
abbrev Block := List Stmt

/-- The root of a tree. -/
structure Module where
  body : Block
deriving Inhabited

namespace Handler

/-- What the handler catches; everything if absent. -/
def type : Handler → Option Expr
  | mk type _ _ => type

/-- The name that the handler binds. -/
def name : Handler → Option Text
  | mk _ name _ => name

/-- The statements of the handler. -/
def body : Handler → Block
  | mk _ _ body => body

end Handler

/-- The name that an alias binds in an import of whole modules. -/
def Alias.moduleBinding (a : Alias) : Text :=
  match a.asName with
  | some n => if n.isEmpty then a.name.before '.' else n
  | none => a.name.before '.'

/-- The name that an alias binds in an import from a module. -/
def Alias.memberBinding (a : Alias) : Text :=
  match a.asName with
  | some n => if n.isEmpty then a.name else n
  | none => a.name

namespace Stmt

/-- Where the statement stood in the source. -/
def location : Stmt → Option Location
  | function _ _ l | classDef _ _ l | importNames _ l | importFrom _ _ _ l | assign _ _ l
  | ret _ l | pass l | expr _ l | tryExcept _ _ _ _ l | captured _ _ l => l
  | foreign _ => none

/-- The name that a definition gives. -/
def name? : Stmt → Option Text
  | function head _ _ => some head.name
  | classDef head _ _ => some head.name
  | _ => none

/-- The name of the statement's variant, as messages give it. -/
def variant : Stmt → Text
  | function .. => "FunctionDef"
  | classDef .. => "ClassDef"
  | importNames .. => "Import"
  | importFrom .. => "ImportFrom"
  | assign .. => "Assign"
  | ret .. => "Return"
  | pass .. => "Pass"
  | expr .. => "ExprStatement"
  | tryExcept .. => "Try"
  | captured .. => "OpaqueStatement"
  | foreign kind => kind

/-- The blocks that a statement owns: of a `try`, its body, the handlers' bodies, the `else` and
the `finally` block. -/
def blocks : Stmt → List Block
  | function _ body _ => [body]
  | classDef _ body _ => [body]
  | tryExcept body handlers orelse finalbody _ =>
    body :: handlers.map Handler.body ++ [orelse, finalbody]
  | _ => []

/-- Whether a statement is an import of either form. -/
def isImport : Stmt → Bool
  | importNames .. | importFrom .. => true
  | _ => false

end Stmt

/-- The expressions that a parameter holds: annotation, then default. -/
def Param.exprs (p : Param) : List Expr := p.hint.toList ++ p.default.toList

/-- The expressions that a statement holds itself, those of nested statements left out. -/
def Stmt.exprs : Stmt → List Expr
  | function head _ _ => head.decorators ++ head.params.flatMap Param.exprs ++ head.returns.toList
  | classDef head _ _ => head.decorators ++ head.bases ++ head.keywords.map Keyword.value
  | assign targets value _ => targets ++ [value]
  | ret value _ => value.toList
  | expr value _ => [value]
  | tryExcept _ handlers _ _ _ => handlers.filterMap Handler.type
  | importNames .. | importFrom .. | pass _ | captured .. | foreign _ => []

end Refactory
