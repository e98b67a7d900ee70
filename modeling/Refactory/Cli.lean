import Refactory.Cli.Command
import Refactory.Cli.Table

/-! # The command line

Commands read and write a disk, print to the screen, and keep a journal of rewrites. The exit code is
0 if all went well, 1 if something failed, and 2 if the command line asks for nothing that can be
done.

* `Outcome`: what a command prints and its exit code.
* `Cli.run`: carries out a command line. -/

namespace Refactory

/-- What a command prints and its exit code. -/
structure Outcome where
  exitCode : Nat := 0
  out : Text := []
  err : Text := []
  /-- A fault that the command does not report. -/
  fault : Option Fault := none

namespace Cli

/-- The outcome of a command line that asks for nothing that can be done. -/
def usage (out : Text) : Outcome := { exitCode := 2, out }

/-- The outcome of a fault that no command reports. -/
def broken (f : Fault) : Outcome := { exitCode := 1, fault := some f }

/-- The program in a file, or the outcome of the failure to read it. -/
def load [Codecs] (d : Disk) (file : FilePath) : Except Outcome Module :=
  match parseFile d file "utf-8" with
  | .ok m => .ok m
  | .error f =>
    if f.isParseFailure then .error { exitCode := 1, err := "Parse failure: " ++ f.message ++ "\n" }
    else .error (broken f)

/-- Shows a file as it is rendered in a mode. -/
def showFile [Codecs] (d : Disk) (file : FilePath) (mode : RenderMode) : Outcome :=
  match load d file with
  | .error o => o
  | .ok m =>
    match m.toText mode with
    | .ok text => { out := text }
    | .error f =>
      if f.isStructural then { exitCode := 1, err := "Cannot render: " ++ f.message ++ "\n" }
      else broken f

/-! ## Searches -/

/-- What a table shows of a value; an absent one is a hyphen. -/
def cellOf : Datum → Text
  | .null => "-"
  | .bool b => if b then "True" else "False"
  | .int n => Text.ofInt n
  | .float d => d.render
  | .text t => t.filter fun c => ['\x07', '\x08', '\x0b', '\x0c', '\r'].all (.scalar · != c)
  | d => d.compactJson

/-- A search's title, the columns of its table, and its rows. -/
structure Findings where
  title : Text
  /-- The headers of the columns, with the fields that they show. -/
  columns : List (Text × Text)
  rows : List Fields

/-- The line of a place. -/
def lineOf (l : Option Location) : Datum := Datum.ofOption (.int ·.line) l

/-- What a search finds in a module. -/
def findings (m : Module) : Search → Except Fault Findings
  | .nodes kind => do
    return ⟨"Nodes", [("Path", "path"), ("Kind", "kind"), ("Name", "name"), ("Line", "line")],
      (← findNodes m kind).map fun r => [
        ("path", .text (Text.join "." (r.path.map Text.ofInt))), ("kind", .text r.kind.label),
        ("name", Datum.ofOption .text r.name), ("line", lineOf r.location)]⟩
  | .imports part => do
    return ⟨"Imports",
      [("Module", "module"), ("Alias", "alias"), ("From", "from"), ("Line", "line")],
      (← findImports m part).map fun i => [
        ("statement", .text i.render), ("module", .text i.name),
        ("alias", Datum.ofOption .text i.asName),
        ("from", if i.isFrom then .text i.modulePath else .null), ("line", lineOf i.location)]⟩
  | .calls name => do
    return ⟨"Calls",
      [("Call", "call"), ("Arguments", "arguments"), ("Method", "method"), ("Line", "line")],
      (← findCalls m name).map fun c => [
        ("call", .text c.rawName), ("arguments", .int c.argumentCount),
        ("method", .bool c.isMethod), ("line", lineOf c.statement.location)]⟩
  | .tries type => do
    return ⟨"Try blocks",
      [("Types", "types"), ("Handlers", "handlers"), ("Else", "else"), ("Finally", "finally"),
        ("Line", "line")],
      (← findTries m type).map fun t => [
        ("types", .text (Text.join ", " t.types)), ("handlers", .int t.handlerCount),
        ("else", .bool t.hasElse), ("finally", .bool t.hasFinally),
        ("line", lineOf t.statement.location)]⟩
  | .assignments part => do
    let rows : List Fields ← (← findAssignments m part).mapM fun a => do
      return [("target", .text a.target), ("value", .text (← a.value.toText .passthrough)),
        ("line", lineOf a.statement.location)]
    return ⟨"Assignments", [("Target", "target"), ("Value", "value"), ("Line", "line")], rows⟩

/-- The table of findings. -/
def Findings.table (f : Findings) : Table where
  title := f.title
  headers := f.columns.map (·.1)
  rows := f.rows.map fun row => f.columns.map fun (_, field) => cellOf ((row.lookup field).getD .null)

/-- Findings as they are printed. -/
def Findings.render (f : Findings) (asJson : Bool) : Text :=
  if asJson then (Datum.list (f.rows.map .record)).indentedJson .ascii ++ "\n"
  else if f.rows.isEmpty then "No " ++ f.title.lower ++ " found.\n"
  else f.table.render

/-- Searches a file. -/
def search [Codecs] (d : Disk) (file : FilePath) (what : Search) (asJson : Bool) : Outcome :=
  match load d file with
  | .error o => o
  | .ok m =>
    match findings m what with
    | .ok found => { out := found.render asJson }
    | .error f => broken f

/-! ## Rewrites -/

/-- The table of a report and a line that counts its files. -/
def reportText (r : Report) (write : Bool) : Text :=
  let table : Table := {
    title := "pyrewrite"
    headers := ["File", "Status", "Details"]
    rows := r.results.map fun f =>
      [cellOf (.text f.path), f.status.label, cellOf (.text f.details)] }
  table.render ++ Text.ofNat (r.count .changed) ++ " file(s) " ++
    (if write then "rewritten" else "would change") ++ ", " ++
    Text.ofNat (r.count .unchanged) ++ " unchanged, " ++
    Text.ofNat (r.count .failed) ++ " failed\n"

/-- Rewrites files; the run is one entry of the journal, after those of its files. -/
def rewrite [Codecs] (b : Batch) (paths : List FilePath) (asJson : Bool) (elapsed : Int)
    (s : BatchState) :
    Outcome × BatchState :=
  let (result, s) := (b.run paths).perform s
  let start : Fields := [("paths", .list (paths.map fun p => .text p.render)), ("write", .bool b.write)]
  let finish (e : Journal.RunEnd) : BatchState :=
    { s with journal := s.journal.map (·.run "rewrite" e elapsed) }
  match result with
  | .error f => (broken f, finish ⟨start, some (.ofFault f)⟩)
  | .ok report =>
    let counts : Fields := [("changed", report.count .changed),
      ("unchanged", report.count .unchanged), ("failed", report.count .failed)]
    let out :=
      if asJson then report.toDatum.indentedJson .raw ++ "\n" else reportText report b.write
    ({ exitCode := if report.isOk then 0 else 1, out }, finish ⟨Fields.update start counts, none⟩)

/-- What is printed for help. -/
def helpText : Text :=
  "Usage: pyrewrite [show | query | rewrite] ...\n"

/-- Carries out a command line. -/
def run [Codecs] (config : Config) (words : List Text) (elapsed : Int) (s : BatchState) :
    Outcome × BatchState :=
  match Command.read words with
  | none => (usage [], s)
  | some .help => ({ out := helpText }, s)
  | some (.showFile file mode) => (showFile s.disk file mode, s)
  | some (.search file what asJson) => (search s.disk file what asJson, s)
  | some (.rewrite paths plan write mode asJson) =>
    if plan.isEmpty then (usage "No operations selected.\n", s)
    else
      let config := match mode with
        | some mode => { config with mode := mode.label }
        | none => config
      rewrite ⟨config, plan, write⟩ paths asJson elapsed s

end Cli

end Refactory
