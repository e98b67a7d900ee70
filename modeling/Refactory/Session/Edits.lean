import Refactory.Build
import Refactory.Query
import Refactory.Rewrite
import Refactory.Tree.Path

/-! # Edits by name and by reference

Top-level definitions are renamed by name. A reference leads to the statement that it was made for,
or the edit is refused: the statement at its path has to be of the same kind and have the same name.

* `renameDefinitions`: all top-level definitions of a name.
* `Ref.check`: whether a reference is still good.
* `editRef`: a change of the block around the statement referred to. -/

namespace Refactory

/-! ## By name -/

/-- An expression with one plain name in place of another. -/
def Expr.renameName (old new : Text) : Expr → Expr
  | .name id => .name (if id = old then new else id)
  | e => e

/-- Whether an expression is the given name. -/
def Expr.isName (name : Text) : Expr → Bool
  | .name id => id = name
  | _ => false

/-- Whether a statement defines a name itself. -/
def Stmt.defines (what : Definition) (name : Text) : Stmt → Bool
  | .function head _ _ => what = .function && head.name = name
  | .classDef head _ _ => what = .classDef && head.name = name
  | .assign targets _ _ => what = .variable && targets.any (Expr.isName name)
  | _ => false

/-- A statement that defines a name with the name replaced. -/
def Stmt.renameDefined (old new : Text) : Stmt → Stmt
  | .function head body location => .function { head with name := new } body location
  | .classDef head body location => .classDef { head with name := new } body location
  | .assign targets value location => .assign (targets.map (Expr.renameName old new)) value location
  | s => s

/-- Renames every top-level definition of a name, whose uses stay; reports where the first stands. -/
def renameDefinitions (what : Definition) (old new : Text) : Edit (Option Location) := do
  unless new.isBindable do throw (.notIdentifier new)
  let m ← get
  match m.body.find? (·.defines what old) with
  | none => throw (.notFound what old)
  | some first =>
    set (Module.mk (m.body.map fun s => if s.defines what old then s.renameDefined old new else s))
    return first.location

/-! ## By reference -/

/-- How messages name a reference. -/
def Ref.describe (r : Ref) : Text :=
  let name := match r.name.getD [] with
    | [] => []
    | name => " '" ++ name ++ "'"
  let place := match r.location with
    | none => []
    | some l => " at line " ++ Text.ofInt l.line
  r.kind.label ++ name ++ place

/-- Refuses a reference that does not lead to a statement of its kind and name. -/
def Ref.check (r : Ref) (m : Module) : Except Fault Unit :=
  match m.resolve r.path with
  | .error f => .error (if f.isLookup then .staleRef r.path f else f)
  | .ok s => do
    let kind ← s.kind
    if kind = r.kind ∧ s.name? = r.name then .ok ()
    else .error (.otherNode r.path r.describe kind.label)

/-- Changes the block around the statement referred to, given its index there. -/
def editRef (r : Ref) (edit : Block → Nat → Block) : Edit Unit := do
  let m ← get
  match (do r.check m; m.editAt r.path edit : Except Fault Module) with
  | .ok after => set after
  | .error f => throw f

/-- What is put in by an edit. -/
inductive Insertion
  /-- Source text, whose lines can share an indentation. -/
  | code (source : Text)
  | one (s : Stmt)
  | many (statements : List Stmt)

/-- The statements that are put in: at least one. -/
def Insertion.statements (i : Insertion) : Except Fault (List Stmt) := do
  let statements ← match i with
    | code source => parseStatements source
    | one (.foreign kind) => .error (.notIterable kind)
    | one s => .ok [s]
    | many statements => .ok statements
  if statements.isEmpty then .error .noStatements else .ok statements

end Refactory
