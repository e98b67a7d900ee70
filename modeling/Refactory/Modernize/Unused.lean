import Refactory.Query
import Refactory.Rewrite

/-! # Unused imports

A top-level import of a name that nothing refers to is dropped, and the statement with it if it was
the last. Star imports and imports from `__future__` stay. -/

namespace Refactory

/-- Whether an alias stays: everything is imported, or the name that it binds is used. -/
def Alias.isKept (used : List Text) (binding : Alias → Text) (a : Alias) : Bool :=
  a.name == Text.ofString "*" || used.contains (binding a)

/-- How a top-level import binds its names, if unused ones can be dropped from it. -/
def Stmt.droppable : Stmt → Option (List Alias × (Alias → Text))
  | .importNames names _ => some (names, Alias.moduleBinding)
  | .importFrom module names _ _ =>
    if module = some (Text.ofString "__future__") then none else some (names, Alias.memberBinding)
  | _ => none

/-- An import with other aliases. -/
def Stmt.setAliases (names : List Alias) : Stmt → Stmt
  | .importNames _ location => .importNames names location
  | .importFrom module _ level location => .importFrom module names level location
  | s => s

/-- Whether a statement is an import that imports nothing. -/
def Stmt.importsNothing : Stmt → Bool
  | .importNames names _ => names.isEmpty
  | .importFrom _ names _ _ => names.isEmpty
  | _ => false

/-- A top-level statement without its unused imports. -/
def Stmt.dropUnused (used : List Text) (s : Stmt) : Stmt :=
  match s.droppable with
  | some (names, binding) => s.setAliases (names.filter (·.isKept used binding))
  | none => s

/-- The names that a top-level statement binds by unused imports. -/
def Stmt.unusedNames (used : List Text) (s : Stmt) : List Text :=
  match s.droppable with
  | some (names, binding) => (names.filter (!·.isKept used binding)).map binding
  | none => []

/-- Drops unused top-level imports; reports the names that are no longer bound. -/
def dropUnusedImports : Edit (List Text) := do
  let used ← Edit.ask usedNames
  let m ← get
  set (Module.mk ((m.body.map (·.dropUnused used)).filter (!·.importsNothing)))
  return m.body.flatMap (·.unusedNames used)

end Refactory
