import Refactory.Files.Parse
import Refactory.Modernize.ImportSource
import Refactory.Modernize.Order
import Refactory.Modernize.Returns
import Refactory.Modernize.Strings
import Refactory.Modernize.Unused
import Refactory.Modernize.Version
import Refactory.Render.Stmt
import Refactory.Session.Change
import Refactory.Session.Edits

/-! # Sessions

A session owns a module and the log of what was done to it. A step either fails and leaves the
session as it was, or reports that there was nothing to do, or adds one change to the log. Each
change keeps the module as it stood before, so that it can be undone.

* `Session`: a module and its log.
* `Step`: an operation on a session, and `Session.record`, which makes one of an edit.
* `Action`: the steps by name, with `Action.step` and `Reply`.
* `Session.save`: writing the module to a file. -/

namespace Refactory

/-- What a session does unless it is told otherwise. -/
structure Options where
  /-- The name of the mode in which text is rendered. -/
  mode : Text := "lenient"
  targetModule : Text := "importlib.metadata"
  targetFunction : Text := "version"

/-- A module and the log of changes to it. -/
structure Session where
  module : Module
  /-- The changes, the latest first, each with the module as it stood before. -/
  history : List (Change × Module) := []
  path : Option Text
  mode : RenderMode
  targetModule : Text
  targetFunction : Text

/-- An operation on a session. -/
abbrev Step := ExceptT Fault (StateM Session)

/-- What a step reports and the session that it leaves. -/
def Step.perform {α : Type} (p : Step α) (s : Session) : Except Fault α × Session :=
  StateT.run (ExceptT.run p) s

namespace Session

/-! ## Opening -/

/-- A session over a module. -/
def start (m : Module) (path : Option Text) (o : Options) : Except Fault Session := do
  return ⟨m, [], path, ← RenderMode.ofText o.mode, o.targetModule, o.targetFunction⟩

/-- A session over a source. -/
def ofSource (source path : Text) (o : Options) : Except Fault Session := do
  start (← parseSource source path).module (some path) o

/-- A session over the program in a file. -/
def ofFile [Codecs] (d : Disk) (path encoding : Text) (o : Options) : Except Fault Session := do
  start (← parseFile d (.ofText path) encoding) (some path) o

/-! ## Bookkeeping -/

/-- The changes from the first to the latest. -/
def changes (s : Session) : List Change := (s.history.map (·.1)).reverse

/-- The changes as a numbered list. -/
def summary (s : Session) : Text := summarize (s.changes.map (·.description))

/-- The session in one line. -/
def describe (s : Session) : Text :=
  "Refactor(file_path=" ++ (match s.path with
    | some path => path.quoted
    | none => "None") ++
  ", statements=" ++ Text.ofNat s.module.body.length ++
  ", changes=" ++ Text.ofNat s.history.length ++ ")"

/-- Makes a step of an edit: a failed one is taken back, and one that leads to a change is logged
with the module as it stood before. -/
def record {α : Type} (edit : Edit α) (log : α → Option Change) : Step α := fun s =>
  match edit.perform s.module with
  | (.error f, _) => (.error f, s)
  | (.ok a, after) =>
    match log a with
    | none => (.ok a, { s with module := after })
    | some change => (.ok a, { s with module := after, history := (change, s.module) :: s.history })

/-- Takes back the latest change. -/
def undo : Step Change := fun s =>
  match s.history with
  | [] => (.error .nothingToUndo, s)
  | (change, before) :: rest => (.ok change, { s with module := before, history := rest })

/-! ## Renaming -/

/-- The change of kind that renaming a definition is. -/
def renamedKind : Definition → ChangeKind
  | .function => .functionRenamed
  | .classDef => .classRenamed
  | .variable => .variableRenamed

/-- Renames every top-level definition of a name. -/
def rename (what : Definition) (old new : Text) : Step Change :=
  record (do
    let location ← renameDefinitions what old new
    return {
      kind := renamedKind what
      description := "Renamed " ++ what.noun ++ " '" ++ old ++ "' to '" ++ new ++ "'"
      location
      oldValue := some old
      newValue := some new }) some

/-! ## Imports -/

/-- Points imports of one module at another; reports whether there were any. -/
def replaceImport (old new : Text) : Step Bool :=
  if old = new then pure false
  else
    record ((fun count => count != 0) <$> renameImports old new) fun
      | false => none
      | true => some {
        kind := .importModified
        description := "Replaced import '" ++ old ++ "' with '" ++ new ++ "'"
        oldValue := some old
        newValue := some new }

/-- Points imports of modules that have moved at where they are now. -/
def modernizeImports : Step (List (Text × Text)) :=
  record (renameLegacyImports []) fun
    | [] => none
    | applied => some {
      kind := .importModified
      description := "Modernized legacy imports: " ++
        Text.join ", " (applied.map fun (old, new) => old ++ " -> " ++ new) }

/-- Removes the imports whose names are not used. -/
def dropUnusedImports : Step (List Text) :=
  record Refactory.dropUnusedImports fun
    | [] => none
    | removed => some {
      kind := .custom
      description := "Removed unused imports: " ++ Text.join ", " removed }

/-- Puts imports in order; reports whether that moved any. -/
def sortImports : Step Bool :=
  record ((fun count => count != 0) <$> Refactory.sortImports) fun
    | false => none
    | true => some { kind := .custom, description := "Sorted import statements" }

/-! ## Constructs -/

/-- What became of version lookups, in a sentence. -/
def describeVersions (target : Text) (r : VersionReport) : Text :=
  let removed := match r.removed with
    | [] => []
    | names => "; removed " ++ Text.join ", " names
  "Replaced " ++ legacyVersionModule ++ " version detection with " ++ target ++ " (" ++
    Text.ofNat r.collapsed ++ " try/except block(s) collapsed; " ++
    Text.ofNat r.rewritten ++ " call(s) rewritten" ++ removed ++ ")"

/-- The text that is given, unless that is empty. -/
def given (t : Option Text) (fallback : Text) : Text :=
  match t.getD [] with
  | [] => fallback
  | t => t

/-- Points version lookups at a function, the one of the session unless another is given; reports
whether there were any. -/
def modernizeVersions (module function : Option Text) : Step Bool := do
  let s ← get
  let module := given module s.targetModule
  let function := given function s.targetFunction
  let target : Text := module ++ "." ++ function
  let report ← record (Refactory.modernizeVersions module function) fun report =>
    report.map fun r => {
      kind := .syntaxModernized
      description := describeVersions target r
      oldValue := some (legacyVersionModule ++ "." ++ legacyVersionFunction)
      newValue := some target }
  return report.isSome

/-- Writes string formatting with formatted strings; reports how many expressions changed. -/
def modernizeStrings : Step Nat :=
  record Refactory.modernizeStrings fun
    | 0 => none
    | count => some {
      kind := .syntaxModernized
      description := "Converted " ++ Text.ofNat count ++
        " string formatting expression(s) to f-strings" }

/-- Annotates returns of top-level functions, from hints given as source text. -/
def annotate (hints : List (Text × Text)) : Step (List Text) := do
  let parsed ← (lastWins hints).mapM fun (name, source) =>
    return (name, ← (parseExpression source : Except Fault Expr))
  record (annotateReturns parsed) fun
    | [] => none
    | names => some {
      kind := .syntaxModernized
      description := "Added return annotations to: " ++ Text.join ", " names }

/-! ## By reference -/

/-- The change that an edit by reference is. -/
def refChange (r : Ref) (description : Text) : Change :=
  { kind := .custom, description, location := r.location }

/-- Puts statements in place of the one referred to. -/
def replaceNode (r : Ref) (new : Insertion) : Step Change := do
  let new ← new.statements
  record (do
    editRef r fun b i => b.take i ++ new ++ b.drop (i + 1)
    return refChange r ("Replaced " ++ r.describe)) some

/-- Puts statements before the one referred to. -/
def insertBefore (r : Ref) (new : Insertion) : Step Change := do
  let new ← new.statements
  record (do
    editRef r fun b i => b.take i ++ new ++ b.drop i
    return refChange r
      ("Inserted " ++ Text.ofNat new.length ++ " statement(s) before " ++ r.describe)) some

/-- Puts statements after the one referred to. -/
def insertAfter (r : Ref) (new : Insertion) : Step Change := do
  let new ← new.statements
  record (do
    editRef r fun b i => b.take (i + 1) ++ new ++ b.drop (i + 1)
    return refChange r
      ("Inserted " ++ Text.ofNat new.length ++ " statement(s) after " ++ r.describe)) some

/-- Removes the statement referred to. -/
def removeNode (r : Ref) : Step Change :=
  record (do
    editRef r fun b i => b.eraseIdx i
    return refChange r ("Removed " ++ r.describe)) some

/-- Applies an edit of the caller's, whose result has to hold nothing but nodes. -/
def transform {α : Type} (description : Text) (edit : Edit α) : Step α :=
  record (do
    let a ← edit
    Edit.ask (·.validate true)
    return a) fun _ => some { kind := .custom, description }

/-! ## Output -/

/-- The text of the module, in the mode of the session unless another is given. -/
def toText (s : Session) (mode : Option Text) : Except Fault Text := do
  let mode ← match mode.getD [] with
    | [] => .ok s.mode
    | mode => RenderMode.ofText mode
  s.module.toText mode

/-- The path that the module is written to: the one given, or else that of the session. -/
def outputPath (s : Session) (path : Option Text) : Except Fault FilePath :=
  let target := match path.getD [] with
    | [] => s.path
    | path => some path
  match target with
  | none => .error .noOutputPath
  | some t => if t = noFile then .error .noOutputPath else .ok (.ofText t)

/-- Writes the text of the module to a file; reports which. -/
def save [Codecs] (s : Session) (d : Disk) (path : Option Text) (encoding : Text)
    (mode : Option Text) : Except Fault FilePath × Disk :=
  match (do return (← s.outputPath path, ← s.toText mode) : Except Fault (FilePath × Text)) with
  | .error f => (.error f, d)
  | .ok (target, text) =>
    let (result, d) := d.writeText target encoding text
    (match result with
      | .ok () => .ok target
      | .error f => .error (.file f), d)

end Session

/-! ## Actions -/

/-- The steps that can change a session. -/
inductive Action
  | rename (what : Definition) (old new : Text)
  | replaceImport (old new : Text)
  | modernizeImports
  | modernizeVersions (module function : Option Text)
  | dropUnusedImports
  | sortImports
  | modernizeStrings
  | annotate (hints : List (Text × Text))
  | replaceNode (ref : Ref) (new : Insertion)
  | insertBefore (ref : Ref) (new : Insertion)
  | insertAfter (ref : Ref) (new : Insertion)
  | removeNode (ref : Ref)
  | transform (description : Text) (edit : Edit Nat)
  | undo

/-- What an action reports. -/
inductive Reply
  | change (c : Change)
  | flag (b : Bool)
  | count (n : Nat)
  | names (names : List Text)
  | pairs (pairs : List (Text × Text))

/-- The step that an action stands for. -/
def Action.step : Action → Step Reply
  | rename what old new => .change <$> Session.rename what old new
  | replaceImport old new => .flag <$> Session.replaceImport old new
  | modernizeImports => .pairs <$> Session.modernizeImports
  | modernizeVersions module function => .flag <$> Session.modernizeVersions module function
  | dropUnusedImports => .names <$> Session.dropUnusedImports
  | sortImports => .flag <$> Session.sortImports
  | modernizeStrings => .count <$> Session.modernizeStrings
  | annotate hints => .names <$> Session.annotate hints
  | replaceNode ref new => .change <$> Session.replaceNode ref new
  | insertBefore ref new => .change <$> Session.insertBefore ref new
  | insertAfter ref new => .change <$> Session.insertAfter ref new
  | removeNode ref => .change <$> Session.removeNode ref
  | transform description edit => .count <$> Session.transform description edit
  | undo => .change <$> Session.undo

end Refactory
