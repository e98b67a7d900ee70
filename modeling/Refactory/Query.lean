import Refactory.Text.Identifier
import Refactory.Tree.Equality
import Refactory.Tree.Walk

/-! # Questions about a module

Every question walks the whole module and gives fresh records; a fault on the way is its answer.

* `Ref`: a reference to a statement by its path.
* `findNodes`, `findImports`, `findCalls`, `findTries`, `findAssignments`: what stands where.
* `usedNames`, `boundNames`: the names that a module refers to and those that it binds. -/

namespace Refactory

/-- The coarse kinds of statements. -/
inductive NodeKind
  | functionDef | classDef | importNames | importFrom | tryExcept | assign | other
deriving DecidableEq, Inhabited

namespace NodeKind

/-- The name of a kind. -/
def label : NodeKind → Text
  | functionDef => "function_def"
  | classDef => "class_def"
  | importNames => "import"
  | importFrom => "import_from"
  | tryExcept => "try_except"
  | assign => "assign"
  | other => "other"

/-- All kinds. -/
def all : List NodeKind :=
  [functionDef, classDef, importNames, importFrom, tryExcept, assign, other]

/-- The kind of a name. -/
def ofText (t : Text) : Except Fault NodeKind :=
  match all.find? (·.label == t) with
  | some kind => .ok kind
  | none => .error (.unknownChoice t "NodeKind")

end NodeKind

/-- The kind of a statement. -/
def Stmt.kind : Stmt → Except Fault NodeKind
  | .function .. => .ok .functionDef
  | .classDef .. => .ok .classDef
  | .importNames .. => .ok .importNames
  | .importFrom .. => .ok .importFrom
  | .tryExcept .. => .ok .tryExcept
  | .assign .. => .ok .assign
  | .ret .. | .pass _ | .expr .. | .captured .. => .ok .other
  | .foreign kind => .error (.notVariant kind)

/-- A reference to a statement of one state of a module. -/
structure Ref where
  path : Path
  kind : NodeKind
  name : Option Text := none
  location : Option Location := none
deriving DecidableEq, Inhabited

/-- The number of statements around the one that is referred to. -/
def Ref.depth (r : Ref) : Int := (r.path.length : Int) - 1

/-- The reference to a statement at a path. -/
def Ref.of (path : Path) (s : Stmt) : Except Fault Ref := do
  return ⟨path, ← s.kind, s.name?, s.location⟩

/-- The names in a chain of attributes that begins at a name, the beginning first. -/
def Expr.chain? : Expr → Option (List Text)
  | .name id => some [id]
  | .attribute value attr => value.chain?.map (· ++ [attr])
  | _ => none

/-! ## Nodes -/

/-- References to all statements, or to those of one kind. -/
def findNodes (m : Module) (kind : Option NodeKind) : Except Fault (List Ref) := do
  let refs ← m.walk.collect fun (path, s) => Ref.of path s
  return refs.filter fun r => kind.all (· == r.kind)

/-! ## Imports -/

/-- One imported name. -/
structure ImportInfo where
  /-- The module, or the name that is taken from one. -/
  name : Text
  asName : Option Text
  isFrom : Bool
  source : Option Text := none
  level : Int := 0
  location : Option Location := none
deriving DecidableEq, Inhabited

namespace ImportInfo

/-- The dotted path from which the import takes. -/
def modulePath (i : ImportInfo) : Text :=
  if i.isFrom then Text.times i.level.toNat "." ++ i.source.getD [] else i.name

/-- The name that the import binds. -/
def boundName (i : ImportInfo) : Text :=
  if i.isFrom then (Alias.mk i.name i.asName).memberBinding
  else (Alias.mk i.name i.asName).moduleBinding

/-- The import as a statement of its own. -/
def render (i : ImportInfo) : Text :=
  let source := if i.modulePath.isEmpty then Text.ofString "." else i.modulePath
  let head := if i.isFrom then "from " ++ source ++ " import " ++ i.name else "import " ++ i.name
  match i.asName.getD [] with
  | [] => head
  | asName => head ++ " as " ++ asName

end ImportInfo

/-- The imported names of a statement. -/
def Stmt.imports : Stmt → List ImportInfo
  | .importNames names location =>
    names.map fun a => { name := a.name, asName := a.asName, isFrom := false, location }
  | .importFrom module names level location =>
    names.map fun a =>
      { name := a.name, asName := a.asName, isFrom := true, source := module, level, location }
  | _ => []

/-- All imported names in order, or those whose path contains a text. -/
def findImports (m : Module) (part : Option Text) : Except Fault (List ImportInfo) := do
  let items ← m.walk.all
  return (items.flatMap (·.2.imports)).filter fun i => part.all (·.hasInfix i.modulePath)

/-! ## Calls -/

/-- A call of a function by name, or of a method. -/
structure CallSite where
  name : Text
  rawName : Text
  isMethod : Bool
  argumentCount : Nat
  statement : Ref

/-- How a called expression is written if it ends in `name`, and whether a method is called. -/
def calledAs (name : Text) : Expr → Option (Text × Bool)
  | .name id => if id = name then some (id, false) else none
  | .attribute value attr =>
    if attr = name then
      match (Expr.attribute value attr).chain? with
      | some parts => some (Text.join "." parts, true)
      | none => some ("<expr>." ++ name, true)
    else none
  | _ => none

/-- The calls of `name` in a statement, nested statements left out. -/
def Stmt.calls (name : Text) (path : Path) (s : Stmt) : Except Fault (List CallSite) := do
  let exprs ← s.walkExprs.all
  let ref ← Ref.of path s
  return exprs.filterMap fun
    | .call func args keywords =>
      (calledAs name func).map fun (raw, isMethod) =>
        ⟨name, raw, isMethod, args.length + keywords.length, ref⟩
    | _ => none

/-- The calls of `name` anywhere in a module. -/
def findCalls (m : Module) (name : Text) : Except Fault (List CallSite) := do
  return (← m.walk.collect fun (path, s) => s.calls name path).flatten

/-! ## Try statements -/

/-- What a `try` statement catches and which blocks it has. -/
structure TryInfo where
  statement : Ref
  types : List Text
  handlerCount : Nat
  hasElse : Bool
  hasFinally : Bool

/-- The expressions of a handler's type, those of a tuple one by one. -/
def Handler.candidates (h : Handler) : List Expr :=
  match h.type with
  | none => []
  | some (.tuple elements) => elements
  | some e => [e]

/-- The plain names among the types that handlers catch. -/
def handlerTypeNames (handlers : List Handler) : List Text :=
  handlers.flatMap fun h => h.candidates.filterMap fun
    | .name id => some id
    | _ => none

/-- The `try` statements of a module, or those that catch a type of the given name. -/
def findTries (m : Module) (type : Option Text) : Except Fault (List TryInfo) := do
  let infos ← m.walk.collect fun
    | (path, .tryExcept body handlers orelse finalbody location) => do
      let ref ← Ref.of path (.tryExcept body handlers orelse finalbody location)
      return some (TryInfo.mk ref (handlerTypeNames handlers) handlers.length (!orelse.isEmpty)
        (!finalbody.isEmpty))
    | _ => .ok none
  return (infos.filterMap id).filter fun i => type.all i.types.contains

/-! ## Assignments -/

/-- An assignment to a plain name. -/
structure AssignmentInfo where
  target : Text
  value : Expr
  statement : Ref

/-- The assignments to a single plain name, or those whose target contains a text. -/
def findAssignments (m : Module) (part : Option Text) : Except Fault (List AssignmentInfo) := do
  let infos ← m.walk.collect fun
    | (path, .assign [.name id] value location) => do
      return some ⟨id, value, ← Ref.of path (.assign [.name id] value location)⟩
    | _ => .ok none
  return (infos.filterMap id).filter fun i => part.all (·.hasInfix i.target)

/-! ## Names in use -/

/-- The names that an expression itself mentions. -/
def Expr.mentions : Expr → List Text
  | .name id => [id]
  | .captured _ source => (source.getD []).asciiWords
  | _ => []

/-- The strings in a list or a tuple. -/
def Expr.listedStrings : Expr → List Text
  | .list elements | .tuple elements => elements.filterMap fun
    | .string value => some value
    | _ => none
  | _ => []

/-- The names in an annotation that is written as a string. -/
def Expr.quotedNames : Expr → List Text
  | .string value => value.asciiWords
  | _ => []

/-- The names that a statement uses besides those in its expressions: what it lists for export, and
what its quoted annotations name. -/
def Stmt.quotedUses : Stmt → List Text
  | .assign [.name id] value _ => if id = "__all__" then value.listedStrings else []
  | .function head _ _ =>
    (head.params.filterMap (·.hint) ++ head.returns.toList).flatMap Expr.quotedNames
  | _ => []

/-- The names that a statement uses, nested statements left out. -/
def Stmt.uses (s : Stmt) : Except Fault (List Text) :=
  match s with
  | .captured _ source _ => .ok (source.getD []).asciiWords
  | s => do
    let exprs ← s.walkExprs.all
    return exprs.flatMap Expr.mentions ++ s.quotedUses

/-- The names that a module refers to, other than by binding them in imports. -/
def usedNames (m : Module) : Except Fault (List Text) := do
  return (← m.walk.collect fun (_, s) => s.uses).flatten

/-! ## Names bound -/

/-- The aliases of a list without the one at an index. -/
def withoutIndex (skip : Option Nat) (names : List Alias) : List Alias :=
  match skip with
  | some i => names.eraseIdx i
  | none => names

/-- The names that a statement binds, nested statements left out; one alias can be skipped. -/
def Stmt.binds (skip : Option Nat) : Stmt → Except Fault (List Text)
  | .importNames names _ => .ok ((withoutIndex skip names).map Alias.moduleBinding)
  | .importFrom _ names _ _ => .ok ((withoutIndex skip names).map Alias.memberBinding)
  | .function head _ _ => .ok (head.name :: head.params.map (·.name))
  | .classDef head _ _ => .ok [head.name]
  | .assign targets _ _ => do
    let exprs ← (Walk.concat (targets.map Expr.walk)).all
    return exprs.filterMap fun
      | .name id => some id
      | _ => none
  | .tryExcept _ handlers _ _ _ =>
    .ok ((handlers.filterMap Handler.name).filter (!·.isEmpty))
  | _ => .ok []

/-- The names that a module binds anywhere, leaving out one alias of the import at a path. -/
def boundNames (m : Module) (skip : Option (Path × Nat)) : Except Fault (List Text) := do
  let names ← m.walk.collect fun (path, s) =>
    s.binds (skip.bind fun (p, i) => if p = path then some i else none)
  return names.flatten

end Refactory
