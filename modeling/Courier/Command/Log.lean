import Courier.Config.Basic
import Courier.Scheduler.State

/-! What the command logs: records of its own, and notes of how its tasks fare. -/
namespace Courier

/-- How much is logged before a level is: the less, the weightier. -/
def LogLevel.rank : LogLevel → Nat
  | error => 0
  | warn => 1
  | info => 2
  | debug => 3
  | trace => 4

/-- Whether a log of this level has room for what is logged at another. -/
def LogLevel.admits (level other : LogLevel) : Bool :=
  other.rank ≤ level.rank

def LogLevel.upperName (level : LogLevel) : String :=
  level.name.map Char.toUpper

namespace Command

structure Record where
  level : LogLevel
  message : String
  fields : List (String × Document) := []

def Record.document (record : Record) : Document :=
  .table (("level", .text record.level.upperName) :: ("message", .text record.message) ::
    record.fields)

def Record.entry (record : Record) : Document :=
  .table [("level", .text record.level.upperName),
    ("fields", .table (("message", .text record.message) :: record.fields)),
    ("target", .text "courier")]

/-- A field's value on a line; the fields of records are texts and numbers. -/
def fieldText : Document → String
  | .text value => value
  | .int value => toString value
  | _ => ""

def Record.line (record : Record) : String :=
  " ".intercalate (record.level.upperName :: "courier:" :: record.message ::
    record.fields.map fun (name, value) => name ++ "=" ++ fieldText value)

inductive Note where
  | ended (report : Scheduler.Report)
  | progress (summary : Summary) (read total : Nat)

namespace Note

/-- How much of a transfer is done, of a hundred; the product is kept within 64 bits. -/
def percent (read total : Nat) : Nat :=
  if total = 0 then 100 else min (read * 100) (0xFFFFFFFFFFFFFFFF) / total

/-- A failure weighs more than what goes as it should. -/
def level : Note → LogLevel
  | ended report => if report.status == .failed then .warn else .info
  | progress .. => .debug

def record (note : Note) : Record :=
  match note with
  | ended report =>
    { level := note.level
      message := terminalMessage report.summary report.status report.error
      fields := [("task_id", .int report.summary.id), ("key", .text report.summary.key.text)] }
  | progress summary read total =>
    { level := note.level
      message := "progress"
      fields := [("task_id", .int summary.id), ("file", .text summary.fileName),
        ("bytes_read", .int read), ("content_length", .int total),
        ("percent", .int (percent read total))] }

def line (note : Note) : String :=
  match note with
  | ended report =>
    " ".intercalate [note.level.upperName, toString report.summary.id, report.summary.key.text,
      note.record.message]
  | progress summary read total =>
    "progress " ++ toString summary.id ++ " " ++ summary.fileName ++ " " ++ toString read ++ "/" ++
      toString total ++ " " ++ toString (percent read total) ++ "%"

end Note

end Command

end Courier
