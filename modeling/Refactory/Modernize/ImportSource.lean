import Refactory.Rewrite

/-! # Where imports come from

Imports of an old module are pointed at a new one, by hand or through the table of modules that have
moved. Names that a module binds stay as they are used.

* `renameImports`: from one module to another.
* `renameLegacyImports`: through a table. -/

namespace Refactory

/-- Old modules and where they have moved. -/
def legacyModules : List (Text × Text) := [
  ("imp", "importlib"), ("optparse", "argparse"), ("ConfigParser", "configparser"),
  ("StringIO", "io"), ("cStringIO", "io"), ("cPickle", "pickle"), ("urllib2", "urllib.request"),
  ("urlparse", "urllib.parse"), ("Queue", "queue"), ("httplib", "http.client"),
  ("cookielib", "http.cookiejar"), ("HTMLParser", "html.parser"),
  ("SocketServer", "socketserver"), ("Tkinter", "tkinter"), ("__builtin__", "builtins"),
  ("copy_reg", "copyreg")]

/-- How often a statement imports a module as such: once for each alias, or once for taking names
from it. -/
def Stmt.importsOf (old : Text) : Stmt → Nat
  | .importNames names _ => names.countP (·.name == old)
  | .importFrom module _ level _ => if level = 0 ∧ module = some old then 1 else 0
  | _ => 0

/-- A statement with one imported module in place of another. -/
def Stmt.renameImport (old new : Text) : Stmt → Stmt
  | .importNames names location =>
    .importNames (names.map fun a => if a.name = old then { a with name := new } else a) location
  | .importFrom module names level location =>
    .importFrom (if level = 0 ∧ module = some old then some new else module) names level location
  | s => s

/-- Points imports of `old` at `new`, wherever they stand; reports how many. -/
def renameImports (old new : Text) : Edit Nat := fun m =>
  let r := m.replaceStmts fun s => if s.importsOf old = 0 then none else some [s.renameImport old new]
  (match r.fault with
    | some f => .error f
    | none => .ok ((r.seen.map (Stmt.importsOf old)).foldr (· + ·) 0), ⟨r.now⟩)

/-- A table in which each key stands once, where it stood first, with the value given last. -/
def lastWins (table : List (Text × Text)) : List (Text × Text) :=
  table.foldl (fun seen (key, value) =>
    if seen.any (·.1 == key) then seen.map fun e => if e.1 = key then (key, value) else e
    else seen ++ [(key, value)]) []

/-- Points imports through a table, entry by entry; reports the entries that applied. -/
def renameThrough : List (Text × Text) → Edit (List (Text × Text))
  | [] => pure []
  | (old, new) :: rest => do
    let count ← renameImports old new
    let applied ← renameThrough rest
    return if count = 0 then applied else (old, new) :: applied

/-- Points imports through a table, the one of moved modules if it is empty. -/
def renameLegacyImports (table : List (Text × Text)) : Edit (List (Text × Text)) :=
  renameThrough (if table.isEmpty then legacyModules else lastWins table)

end Refactory
