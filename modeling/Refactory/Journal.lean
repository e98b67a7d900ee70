import Refactory.Datum
import Refactory.Fault

/-! # Journals

A journal is a list of entries that only grows. A run is one entry that is written when the run ends,
whether it succeeds or not.

* `Journal.log`: adds an entry.
* `Journal.run`: adds the entry of a run. -/

namespace Refactory

/-- One entry of a journal. -/
structure JournalEntry where
  event : Text
  data : Fields
  file : Option Text := none
  /-- How many milliseconds a run took. -/
  duration : Option Int := none
deriving Inhabited

/-- An entry as a line of JSON, stamped with a time. -/
def JournalEntry.line (e : JournalEntry) (timestamp : Text) : Text :=
  Datum.json .ascii .spaced (.record [
    ("event_type", .text e.event), ("data", .record e.data),
    ("file_path", Datum.ofOption .text e.file), ("duration_ms", Datum.ofOption .int e.duration),
    ("timestamp", .text timestamp)])

/-- The entries from the first to the latest. -/
abbrev Journal := List JournalEntry

/-- What ended a run early: its class, what it says, and whether it is an error or an order to
stop. -/
structure Interruption where
  category : Text
  message : Text
  isError : Bool := true

namespace Interruption

/-- An interruption that is raised by its class and a message; a missing key quotes the message. -/
def ofClass (category message : Text) : Interruption where
  category := category
  message := if category = "KeyError" then message.quoted else message
  isError := ["KeyboardInterrupt", "SystemExit", "GeneratorExit", "BaseException"].all
    fun name => Text.ofString name != category

/-- The interruption of a fault. -/
def ofFault (f : Fault) : Interruption := { category := f.category, message := f.message }

end Interruption

namespace Journal

/-- Adds an entry. -/
def log (j : Journal) (e : JournalEntry) : Journal := j ++ [e]

/-- How a run ended: with the fields that it reports, or early, with those that it had set. -/
structure RunEnd where
  fields : Fields
  interruption : Option Interruption := none

/-- The fields of the entry of a run. A run that reports failures has failed. -/
def RunEnd.data (r : RunEnd) : Fields :=
  match r.interruption with
  | none =>
    let failed := (r.fields.lookup (Text.ofString "failed")).any Datum.isTruthy
    Fields.set r.fields "status" (.text (if failed then "failed" else "success"))
  | some i =>
    if i.isError then
      Fields.set (Fields.set r.fields "status" (.text "error")) "error"
        (.text (i.category ++ ": " ++ i.message))
    else r.fields

/-- Refuses a run whose data names one of the fields that the journal itself passes on. -/
def checkFields (data : Fields) : Except Fault Unit :=
  match data.find? fun (name, _) => name == "self" || name == "event_type" with
  | some (name, _) => .error (.reservedField name)
  | none => .ok ()

/-- Adds the entry of a run that took the given time. -/
def run (j : Journal) (event : Text) (r : RunEnd) (elapsed : Int) : Journal :=
  j.log { event, data := r.data, duration := some elapsed }

end Journal

end Refactory
