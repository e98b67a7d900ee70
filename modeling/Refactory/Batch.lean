import Refactory.Batch.Plan
import Refactory.Batch.Report
import Refactory.Journal

/-! # Batches

A plan is applied to files and folders, each file in a session of its own. A file that cannot be
read, parsed or rendered is reported as failed and the others are still processed; any other fault
ends the batch.

* `Config`: where things are kept and how files are read and written.
* `Batch.discover`: the files that paths stand for.
* `Batch.run`: applies the plan to all of them. -/

namespace Refactory

/-- Where things are kept and how files are read and written. -/
structure Config where
  baseDir : FilePath
  mode : Text := "passthrough"
  encoding : Text := "utf-8"
  targetModule : Text := "importlib.metadata"
  targetFunction : Text := "version"
  /-- The names of folders that are left out when files are looked for. -/
  excluded : List Text := [".git", ".hg", ".tox", ".nox", ".venv", "venv", "__pycache__", "build",
    "dist", "node_modules"]

namespace Config

/-- The folder of the journal. -/
def logDir (c : Config) : FilePath := c.baseDir.below ["logs"]

/-- The settings as data. -/
def fields (c : Config) : Fields :=
  [("render_mode", .text c.mode), ("encoding", .text c.encoding),
    ("target_module", .text c.targetModule), ("target_function", .text c.targetFunction),
    ("log_dir", .text c.logDir.render), ("exclude_dirs", .list (c.excluded.map .text))]

/-- Makes the folders that the configuration names. -/
def ensureFolders (c : Config) (d : Disk) : Except FileFault Disk := do
  (← d.makeFolders c.baseDir).makeFolders c.logDir

/-- The options of the sessions of a batch. -/
def options (c : Config) : Options := ⟨c.mode, c.targetModule, c.targetFunction⟩

end Config

/-- A configuration, a plan, and whether changed files are written back. -/
structure Batch where
  config : Config
  plan : Plan
  write : Bool := false

/-- The state of a batch: the files and the journal, if one is kept. -/
structure BatchState where
  disk : Disk
  journal : Option Journal := none

/-- A part of a batch; a fault that it does not report ends the batch. -/
abbrev BatchStep := ExceptT Fault (StateM BatchState)

/-- The outcome of a part of a batch and the state that it leaves. -/
def BatchStep.perform {α : Type} (p : BatchStep α) (s : BatchState) : Except Fault α × BatchState :=
  StateT.run (ExceptT.run p) s

/-- Whether the name of a file is that of a source file. -/
def isSourceName (name : Text) : Bool := (Text.ofString ".py").isSuffixOf name

/-- The items with those left out whose key has come before. -/
def firstByKey {α κ : Type} [BEq κ] (key : α → κ) (seen : List κ) : List α → List α
  | [] => []
  | a :: rest =>
    if seen.contains (key a) then firstByKey key seen rest
    else a :: firstByKey key (key a :: seen) rest

namespace Batch

/-! ## Files -/

/-- The source files below a folder, in order, less those in excluded folders. -/
def sourceFiles (excluded : List Text) (d : Disk) (folder : FilePath) : List FilePath :=
  (d.listBelow folder).filterMap fun parts =>
    let candidate := folder.below parts
    if isSourceName (parts.getLastD []) && !parts.dropLast.any excluded.contains &&
      d.isFile candidate then some candidate else none

/-- The files that a path stands for, or nothing if there is nothing at the path. -/
def expand (excluded : List Text) (d : Disk) (p : FilePath) : Option (List FilePath) :=
  if d.isFolder p then some (sourceFiles excluded d p)
  else if d.isFile p then some [p]
  else none

/-- The files that paths stand for, each once, and the paths at which there is nothing. -/
def discover (b : Batch) (d : Disk) (paths : List FilePath) : List FilePath × List FilePath :=
  let found := paths.map fun p => (p, expand b.config.excluded d p)
  (firstByKey (fun p => (d.locate p).toOption) [] (found.flatMap fun (_, files) => files.getD []),
    found.filterMap fun (p, files) => if files.isNone then some p else none)

/-! ## Processing -/

/-- Faults that are reported with the file. -/
def isReported : Fault → Bool
  | .file f => f.isOfFile
  | f => f.isOwn

/-- Reads a file and applies the plan to it. -/
def edit [Codecs] (b : Batch) (d : Disk) (p : FilePath) : Except Fault Session := do
  let source ← (d.readText p b.config.encoding).mapError Fault.file
  let parsed ← parseSource source p.render
  let session ← Session.start parsed.module (some p.render) b.config.options
  let (result, session) := b.plan.apply.perform session
  result
  return session

/-- Writes a session back to its file. -/
def writeBack [Codecs] (b : Batch) (d : Disk) (p : FilePath) (s : Session) :
    Except Fault Unit × Disk :=
  match s.toText none with
  | .error f => (.error f, d)
  | .ok text =>
    let (result, d) := d.writeText p b.config.encoding text
    (result.mapError Fault.file, d)

/-- Applies the plan to a file and writes it back if it changed and that is wanted. -/
def process [Codecs] (b : Batch) (d : Disk) (p : FilePath) : Except Fault FileResult × Disk :=
  match b.edit d p with
  | .error f => (.error f, d)
  | .ok session =>
    let changes := session.changes.map ChangeRecord.ofChange
    if changes.isEmpty then (.ok { path := p.render, status := .unchanged }, d)
    else if b.write then
      let (result, d) := b.writeBack d p session
      (result.map fun _ => { path := p.render, status := .changed, changes, written := true }, d)
    else (.ok { path := p.render, status := .changed, changes }, d)

/-- Adds an entry to the journal, if one is kept. -/
def note (e : JournalEntry) : BatchStep Unit :=
  modify fun s => { s with journal := s.journal.map (·.log e) }

/-- Processes a file; what goes wrong with it becomes its result. -/
def processFile [Codecs] (b : Batch) (p : FilePath) : BatchStep FileResult := do
  let s ← get
  let (result, disk) := b.process s.disk p
  set { s with disk }
  let result ← match result with
    | .ok result => pure result
    | .error f =>
      if isReported f then
        pure { path := p.render, status := .failed, error := some f.message : FileResult }
      else throw f
  note { event := "file_processed", data := result.fields, file := some p.render }
  return result

/-- The result for a path at which there is nothing. -/
def missingResult (p : FilePath) : FileResult :=
  { path := p.render, status := .failed, error := some "path does not exist" }

/-- Applies the plan to all files that paths stand for. -/
def run [Codecs] (b : Batch) (paths : List FilePath) : BatchStep Report := do
  let (files, missing) := b.discover (← get).disk paths
  let results ← files.mapM b.processFile
  let report : Report := ⟨missing.map missingResult ++ results⟩
  note { event := "batch_finished", data := [
    ("files", report.results.length), ("changed", report.count .changed),
    ("unchanged", report.count .unchanged), ("failed", report.count .failed),
    ("write", b.write)] }
  return report

end Batch

end Refactory
