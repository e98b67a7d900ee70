import Refactory.Datum
import Refactory.Session

/-! # Plans

What is to be done to every file of a batch, in a fixed order: renames, replaced imports, then the
modernizations.

* `Plan.problems`: why a plan is refused.
* `Plan.apply`: the steps of a plan in one session. -/

namespace Refactory

/-- The operations that are applied to every file. -/
structure Plan where
  renameFunctions : List (Text × Text) := []
  renameClasses : List (Text × Text) := []
  replaceImports : List (Text × Text) := []
  modernizeImports : Bool := false
  versions : Bool := false
  strings : Bool := false
  unusedImports : Bool := false
  sortImports : Bool := false
deriving DecidableEq, Inhabited

/-- A new name that is no identifier, and the field of the plan that it stands in. -/
structure PlanProblem where
  field : Text
  name : Text
deriving DecidableEq

/-- The wording of a problem. -/
def PlanProblem.message (p : PlanProblem) : Text :=
  "Value error, " ++ (Fault.notIdentifier p.name).message

namespace Plan

/-- The first new name of a field that is no identifier. -/
def firstProblem (field : Text) (pairs : List (Text × Text)) : List PlanProblem :=
  ((pairs.find? (!·.2.isBindable)).map fun (_, name) => ⟨field, name⟩).toList

/-- Why a plan is refused: at most one problem for each field. -/
def problems (p : Plan) : List PlanProblem :=
  firstProblem "rename_functions" p.renameFunctions ++ firstProblem "rename_classes" p.renameClasses

/-- An old name and a new one on either side of the first colon. -/
def readPair? (t : Text) : Option (Text × Text) :=
  match t.before ':', t.dropWhile fun c : CodePoint => c ≠ ':' with
  | [], _ => none
  | _, [] => none
  | _, [_] => none
  | old, _ :: new => some (old, new)

/-- Pairs of names, or the first text that is none. -/
def readPairs (ts : List Text) : Except Text (List (Text × Text)) :=
  ts.mapM fun t =>
    match readPair? t with
    | some pair => .ok pair
    | none => .error t

/-- The complaint about a text that is no pair. -/
def pairMessage (t : Text) : Text := "expected OLD:NEW, got " ++ t.quoted

/-- Whether a plan asks for nothing. -/
def isEmpty (p : Plan) : Bool :=
  p.renameFunctions.isEmpty && p.renameClasses.isEmpty && p.replaceImports.isEmpty &&
    !p.modernizeImports && !p.versions && !p.strings && !p.unusedImports && !p.sortImports

/-- Pairs of names as data. -/
def pairsDatum (pairs : List (Text × Text)) : Datum :=
  .list (pairs.map fun (old, new) => .list [.text old, .text new])

/-- A plan as data. -/
def toDatum (p : Plan) : Datum :=
  .record [("rename_functions", pairsDatum p.renameFunctions),
    ("rename_classes", pairsDatum p.renameClasses),
    ("replace_imports", pairsDatum p.replaceImports),
    ("modernize_imports", .bool p.modernizeImports), ("pkg_resources", .bool p.versions),
    ("modernize_strings", .bool p.strings), ("remove_unused_imports", .bool p.unusedImports),
    ("sort_imports", .bool p.sortImports)]

/-- A rename that is left out if it cannot be done. -/
def renameIfThere (what : Definition) (old new : Text) : Step Unit :=
  tryCatch (do let _ ← Session.rename what old new) fun f =>
    if f.isRefusal then pure () else throw f

/-- The steps of a plan in their order. -/
def apply (p : Plan) : Step Unit := do
  p.renameFunctions.forM fun (old, new) => renameIfThere .function old new
  p.renameClasses.forM fun (old, new) => renameIfThere .classDef old new
  p.replaceImports.forM fun (old, new) => do let _ ← Session.replaceImport old new
  if p.modernizeImports then let _ ← Session.modernizeImports
  if p.versions then let _ ← Session.modernizeVersions none none
  if p.strings then let _ ← Session.modernizeStrings
  if p.unusedImports then let _ ← Session.dropUnusedImports
  if p.sortImports then let _ ← Session.sortImports

end Plan

end Refactory
