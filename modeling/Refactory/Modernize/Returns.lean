import Refactory.Rewrite

/-! # Return annotations

Top-level functions without a return annotation get the one given for their name. -/

namespace Refactory

/-- A statement with the return annotation for its name, if it lacks one. -/
def Stmt.annotateReturn (hints : List (Text × Expr)) : Stmt → Option Stmt
  | .function head body location =>
    if head.returns.isSome then none
    else (hints.reverse.lookup head.name).map fun hint =>
      .function { head with returns := some hint } body location
  | _ => none

/-- Annotates the returns of top-level functions; reports the names of those that changed. Of several
hints for a name the last counts. -/
def annotateReturns (hints : List (Text × Expr)) : Edit (List Text) := do
  let m ← get
  set (Module.mk (m.body.map fun s => (s.annotateReturn hints).getD s))
  return m.body.filterMap fun s => (s.annotateReturn hints).bind Stmt.name?

end Refactory
