import Refactory.Datum
import Refactory.Query
import Refactory.Session.Change

/-! # Answers as data

The records that questions and sessions answer with, in the form in which they are written out. -/

namespace Refactory

/-- A place as data: its line and its column. -/
def Location.toDatum (l : Location) : Datum := .list [.int l.line, .int l.column]

/-- A reference as data. -/
def Ref.toDatum (r : Ref) : Datum :=
  .record [("path", .list (r.path.map .int)), ("kind", .text r.kind.label),
    ("name", Datum.ofOption .text r.name), ("location", Datum.ofOption Location.toDatum r.location),
    ("depth", .int r.depth)]

/-- An imported name as data, with what follows from it. -/
def ImportInfo.toDatum (i : ImportInfo) : Datum :=
  .record [("module", .text i.name), ("alias", Datum.ofOption .text i.asName),
    ("is_from_import", .bool i.isFrom), ("from_module", Datum.ofOption .text i.source),
    ("level", .int i.level), ("location", Datum.ofOption Location.toDatum i.location),
    ("module_path", .text i.modulePath), ("bound_name", .text i.boundName),
    ("str", .text i.render)]

/-- A call as data. -/
def CallSite.toDatum (c : CallSite) : Datum :=
  .record [("name", .text c.name), ("raw_name", .text c.rawName), ("is_method", .bool c.isMethod),
    ("argument_count", .int c.argumentCount), ("statement", c.statement.toDatum)]

/-- A `try` statement as data. -/
def TryInfo.toDatum (t : TryInfo) : Datum :=
  .record [("statement", t.statement.toDatum), ("exception_types", .list (t.types.map .text)),
    ("handler_count", .int t.handlerCount), ("has_else", .bool t.hasElse),
    ("has_finally", .bool t.hasFinally)]

/-- A change as data. -/
def Change.toDatum (c : Change) : Datum :=
  .record [("kind", .text c.kind.label), ("description", .text c.description),
    ("location", Datum.ofOption Location.toDatum c.location),
    ("old_value", Datum.ofOption .text c.oldValue), ("new_value", Datum.ofOption .text c.newValue)]

end Refactory
