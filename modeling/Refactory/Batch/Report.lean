import Refactory.Datum
import Refactory.Session.Change

/-! # Reports

What became of each file of a batch.

* `FileResult`: the outcome for one file.
* `Report`: the outcomes for all files, with counts and as data. -/

namespace Refactory

/-- What became of a file. -/
inductive FileStatus
  | changed | unchanged | failed
deriving DecidableEq, Inhabited

/-- The name of a status. -/
def FileStatus.label : FileStatus → Text
  | changed => "changed"
  | unchanged => "unchanged"
  | failed => "failed"

/-- A change as reports show it. -/
structure ChangeRecord where
  kind : Text
  description : Text
  line : Option Int := none
deriving DecidableEq

namespace ChangeRecord

/-- What a report shows of a change. -/
def ofChange (c : Change) : ChangeRecord :=
  ⟨c.kind.label, c.description, c.location.map (·.line)⟩

/-- A record as data. -/
def toDatum (c : ChangeRecord) : Datum :=
  .record [("kind", .text c.kind), ("description", .text c.description),
    ("line", Datum.ofOption .int c.line)]

end ChangeRecord

/-- The outcome for one file. -/
structure FileResult where
  path : Text
  status : FileStatus
  changes : List ChangeRecord := []
  error : Option Text := none
  written : Bool := false

namespace FileResult

/-- The fields of a result as data. -/
def fields (r : FileResult) : Fields :=
  [("path", .text r.path), ("status", .text r.status.label),
    ("changes", .list (r.changes.map ChangeRecord.toDatum)),
    ("error", Datum.ofOption .text r.error), ("written", .bool r.written)]

/-- What a table shows besides the status: why the file failed, or its changes line by line. -/
def details (r : FileResult) : Text :=
  if r.status = .failed then r.error.getD []
  else Text.join "\n" (r.changes.map (·.description))

end FileResult

/-- The outcomes for all files, in order. -/
structure Report where
  results : List FileResult := []

namespace Report

/-- The number of files with a status. -/
def count (r : Report) (status : FileStatus) : Nat := r.results.countP (·.status == status)

/-- Whether no file failed. -/
def isOk (r : Report) : Bool := r.count .failed == 0

/-- A report as data. -/
def toDatum (r : Report) : Datum :=
  .record [("results", .list (r.results.map fun f => .record f.fields))]

end Report

end Refactory
