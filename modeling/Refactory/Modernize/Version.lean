import Refactory.Query
import Refactory.Rewrite

/-! # Version lookup

`get_distribution(X).version` from `pkg_resources` becomes a call of a function that gives the version
of `X` directly. A `try` that does nothing but guard such a lookup against a missing distribution
collapses into the assignment. The import of the new function goes in front of the first old one,
under a fresh name if its own is taken; old imports that are no longer used go.

* `freeName`: a name that is not taken.
* `modernizeVersions`: the whole change. -/

namespace Refactory

/-- The module with the old lookup. -/
def legacyVersionModule : Text := "pkg_resources"

/-- The function of the old lookup. -/
def legacyVersionFunction : Text := "get_distribution"

/-- What the old lookup raises. -/
def legacyNotFound : Text := "DistributionNotFound"

/-- What modernizing version lookups has changed. -/
structure VersionReport where
  collapsed : Nat
  rewritten : Nat
  removed : List Text
  inserted : Bool

/-! ## Names -/

/-- The `n`th name to try in place of a taken one. -/
def candidateName (preferred : Text) (n : Nat) : Text :=
  "_pkg_" ++ preferred ++ if n = 0 then [] else Text.ofNat (n + 1)

/-- The preferred name, or the first candidate that is not taken. -/
def freeName (preferred : Text) (taken : List Text) : Text :=
  if taken.contains preferred then
    candidateName preferred
      (((List.range (taken.length + 1)).find? fun n =>
        !taken.contains (candidateName preferred n)).getD 0)
  else preferred

/-- The names taken from a module by a statement. -/
def Stmt.takenFrom (source : Text) : Stmt → List Alias
  | .importFrom module names level _ => if level = 0 ∧ module = some source then names else []
  | _ => []

/-- Whether a statement takes names from a module. -/
def Stmt.takesFrom (source : Text) : Stmt → Bool
  | .importFrom module _ level _ => level = 0 && module = some source
  | _ => false

/-- The names to which imports bind the given name. -/
def bindingsOf (name : Text) (aliases : List Alias) : List Text :=
  (aliases.filter (·.name == name)).map Alias.memberBinding

/-- The imports of a function from a module: where each stands, and the name it binds. -/
def bindingSites (source name : Text) (items : List (Path × Stmt)) : List (Path × Nat × Text) :=
  items.flatMap fun (path, s) => (s.takenFrom source).zipIdx.filterMap fun (a, i) =>
    if a.name = name then some (path, i, a.memberBinding) else none

/-- The first of the names that nothing but its own import binds. -/
def firstUnshared (m : Module) : List (Path × Nat × Text) → Except Fault (Option Text)
  | [] => .ok none
  | (path, i, bound) :: rest => do
    if (← boundNames m (some (path, i))).contains bound then firstUnshared m rest
    else return some bound

/-! ## Lookups -/

/-- `X` of a lookup `get_distribution(X).version`, whatever name the function has. -/
def versionArgument? (callers : List Text) : Expr → Option Expr
  | .attribute (.call (.name id) [argument] []) attr =>
    if attr = "version" ∧ callers.contains id then some argument else none
  | _ => none

/-- Whether a handler catches a missing distribution. -/
def Handler.catchesMissing (notFound : List Text) (h : Handler) : Bool :=
  h.candidates.any fun e =>
    match e.chain?.bind List.getLast? with
    | some last => last == legacyNotFound || notFound.contains last
    | none => false

/-- The assignment that a guarded lookup collapses into. -/
def collapse (callers notFound : List Text) (function : Text) : Stmt → Option (List Stmt)
  | .tryExcept [.assign targets value _] handlers [] [] location =>
    if handlers.any (·.catchesMissing notFound) then
      (versionArgument? callers value).map fun argument =>
        [.assign targets (.call (.name function) [argument] []) location]
    else none
  | _ => none

/-- The call that a lookup becomes. -/
def lookupCall (callers : List Text) (function : Text) (e : Expr) : Option Expr :=
  (versionArgument? callers e).map fun argument => .call (.name function) [argument] []

/-! ## Imports in place -/

mutual

/-- Replaces, in pre-order, the statements that satisfy `isIt` by the given lists, as long as there
are any; gives the lists that are left. -/
def Stmt.splice (isIt : Stmt → Bool) (news : List (List Stmt)) :
    Stmt → List Stmt × List (List Stmt)
  | .function head body location =>
    let (body, news) := Stmt.spliceBlock isIt news body
    ([.function head body location], news)
  | .classDef head body location =>
    let (body, news) := Stmt.spliceBlock isIt news body
    ([.classDef head body location], news)
  | .tryExcept body handlers orelse finalbody location =>
    let (body, news) := Stmt.spliceBlock isIt news body
    let (handlers, news) := Handler.spliceEach isIt news handlers
    let (orelse, news) := Stmt.spliceBlock isIt news orelse
    let (finalbody, news) := Stmt.spliceBlock isIt news finalbody
    ([.tryExcept body handlers orelse finalbody location], news)
  | s =>
    match news with
    | new :: rest => if isIt s then (new, rest) else ([s], news)
    | [] => ([s], [])

/-- Replaces statements of a block. -/
def Stmt.spliceBlock (isIt : Stmt → Bool) (news : List (List Stmt)) :
    List Stmt → Block × List (List Stmt)
  | [] => ([], news)
  | s :: rest =>
    let (new, news) := s.splice isIt news
    let (block, news) := Stmt.spliceBlock isIt news rest
    (new ++ block, news)

/-- Replaces statements in the bodies of handlers. -/
def Handler.spliceEach (isIt : Stmt → Bool) (news : List (List Stmt)) :
    List Handler → List Handler × List (List Stmt)
  | [] => ([], news)
  | .mk type name body :: rest =>
    let (body, news) := Stmt.spliceBlock isIt news body
    let (rest, news) := Handler.spliceEach isIt news rest
    (.mk type name body :: rest, news)

end

/-- An old import of the module before the change, and whether it is still in the tree after guarded
lookups have collapsed. -/
structure LegacyImport where
  stmt : Stmt
  attached : Bool

/-- The old imports, those inside statements that collapse no longer attached. -/
def legacyImports (items : List (Path × Stmt)) (collapses : Stmt → Bool) : List LegacyImport :=
  let gone := (items.filter (collapses ·.2)).map (·.1)
  (items.filter (·.2.takesFrom legacyVersionModule)).map fun (path, s) =>
    ⟨s, !gone.any (·.isPrefixOf path)⟩

/-- The names of an old import that are still used. -/
def LegacyImport.kept (used : List Text) (l : LegacyImport) : List Alias :=
  (l.stmt.takenFrom legacyVersionModule).filter fun a =>
    used.contains a.memberBinding || a.name == Text.ofString "*"

/-- The names that an old import need no longer bind. -/
def LegacyImport.dropped (used : List Text) (l : LegacyImport) : List Text :=
  ((l.stmt.takenFrom legacyVersionModule).filter fun a =>
    !(used.contains a.memberBinding || a.name == Text.ofString "*")).map Alias.memberBinding

/-- What takes the place of an old import. -/
def LegacyImport.replacement (used : List Text) (l : LegacyImport) : List Stmt :=
  match l.stmt, l.kept used with
  | _, [] => []
  | .importFrom module _ level location, names => [.importFrom module names level location]
  | s, _ => [s]

/-- Puts the import of the new function in front of the first old one. -/
def insertImport (legacy : List LegacyImport) (source name : Text) (asName : Option Text) :
    Edit Unit := do
  match legacy.head? with
  | some ⟨anchor, true⟩ =>
    let new := Stmt.importFrom (some source) [⟨name, asName⟩] 0 anchor.location
    modify fun m => ⟨(Stmt.spliceBlock (·.takesFrom legacyVersionModule) [[new, anchor]] m.body).1⟩
  | _ => throw .detached

/-- Drops what is no longer used from the old imports; `before` are statements that only look like
one. An old import that is no longer in the tree cannot be dropped. -/
def dropLegacyImports (legacy : List LegacyImport) (used : List Text) (before : List (List Stmt)) :
    Edit Unit := do
  let reached := legacy.takeWhile fun l => l.attached || !(l.kept used).isEmpty
  let news := before ++ (reached.filter (·.attached)).map (·.replacement used)
  modify fun m => ⟨(Stmt.spliceBlock (·.takesFrom legacyVersionModule) news m.body).1⟩
  if reached.length < legacy.length then throw .detached

/-- Modernizes version lookups; reports nothing if there was nothing to do. -/
def modernizeVersions (targetModule targetFunction : Text) : Edit (Option VersionReport) := do
  let items ← Edit.ask fun m => m.walk.all
  let aliases := items.flatMap (·.2.takenFrom legacyVersionModule)
  let callers := bindingsOf legacyVersionFunction aliases
  if callers.isEmpty then return none
  else
    let notFound := bindingsOf legacyNotFound aliases
    let existing ← Edit.ask fun m =>
      firstUnshared m (bindingSites targetModule targetFunction items)
    let function ← match existing with
      | some name => pure name
      | none => Edit.ask fun m => do
        return freeName targetFunction ((← boundNames m none) ++ (← usedNames m))
    let legacy := legacyImports items fun s => (collapse callers notFound function s).isSome
    let collapsed ← replaceStmts (collapse callers notFound function)
    let rewritten ← rewriteExprs fun e => .ok (lookupCall callers function e)
    let inserted := existing.isNone && (0 < collapsed || 0 < rewritten)
    let asName := if function = targetFunction then none else some function
    if inserted then insertImport legacy targetModule targetFunction asName
    let used ← Edit.ask usedNames
    let looksLegacy := inserted && targetModule = legacyVersionModule
    dropLegacyImports legacy used
      (if looksLegacy then
        [[.importFrom (some targetModule) [⟨targetFunction, asName⟩] 0
          ((legacy.head?.map (·.stmt.location)).getD none)]] else [])
    let removed := legacy.flatMap (·.dropped used)
    if collapsed = 0 && rewritten = 0 && !inserted && removed.isEmpty then return none
    else return some ⟨collapsed, rewritten, removed, inserted⟩

end Refactory
