import Courier.Cache.FileLookup
import Courier.Command.Log
import Courier.Command.Options
import Courier.Command.Order
import Courier.Storage.Registry
import Courier.Transfer.Run

/-! A session of the command: orders come in, and files are remembered, tasks submitted and
canceled. -/
namespace Courier.Command

structure Session where
  lookup : FileLookup
  /-- The identifier of the next task. -/
  nextId : TaskId

/-- What an order leads to. -/
inductive Action where
  | print (line : String)
  /-- Submits a task; the text of its message is recorded first, if there is one. -/
  | submit (task : Task) (text : Option String)
  | cancel (key : Key)
  | warn (record : Record)
  /-- Ends the command at once. -/
  | halt

def milliseconds (seconds : Nat) : Nat :=
  1000 * seconds

/-- The last millisecond of a clock that counts seconds in signed words of 64 bits. -/
def clockEnd : Nat :=
  milliseconds (UInt64.size / 2 - 1) + 999

/-- The engine that a configuration asks for. Articles are not fetched. -/
def engineOf (libraries : Libraries) (config : Config) : Except TransferError (Nat × Engine) :=
  match Registry.new.load config with
  | (.error e, _) => .error e
  | (.ok built, registry) =>
    .ok (built, ⟨registry, ⟨config.retries⟩, config.cacheDir, none, libraries⟩)

def starting (built workers : Nat) : Record :=
  { level := .info, message := "courier starting"
    fields := [("storages", .int built), ("workers", .int workers)] }

def draining (queued outstanding : Nat) : Record :=
  { level := .info, message := "input closed, draining"
    fields := [("queued", .int queued), ("outstanding", .int outstanding)] }

def finished (remembered : Nat) : Record :=
  { level := .info, message := "courier finished", fields := [("remembered", .int remembered)] }

def malformed : Record :=
  { level := .warn, message := "ignoring malformed request" }

def unwanted (reason : String) : Record :=
  { level := .warn, message := "ignoring save request", fields := [("error", .text reason)] }

def nothingToCancel (key : Key) : Record :=
  { level := .warn, message := "nothing to cancel", fields := [("key", .text key.text)] }

def cannotStat (path : String) : String :=
  "cannot stat " ++ path

def cannotAnnounce (path : String) : Record :=
  { level := .warn, message := "cannot announce file"
    fields := [("error", .text (cannotStat path)), ("path", .text path)] }

/-- The path whose size has to be known for an order. -/
def Order.measures : Order → Option String
  | .announce path => some path
  | .save order => if order.hash.isNone && order.size.isNone then order.path else none
  | .cancel .. => none

/-- A file as an order names it; without a name of its own it has that of its path. -/
def fileOf (path : String) (name : Option String) (size : Nat) : RemoteFile :=
  ⟨path, size, name.getD (String.ofList ((Path.fileName? path).getD []))⟩

namespace Session

def new (config : Config) : Session :=
  ⟨.new clockEnd (milliseconds config.lookupSeconds), 1⟩

/-- The file that a save order means, or why there is none. `measured` is the size of its path. -/
def fileFor (s : Session) (now : Nat) (order : SaveOrder) (measured : Option Nat) :
    Except String RemoteFile × Session :=
  match order.hash, order.path with
  | some hash, _ =>
    let (found, lookup) := s.lookup.remove now hash
    ((found.map .ok).getD (.error ("unknown or expired file hash " ++ hash)), { s with lookup })
  | none, some path =>
    match order.size <|> measured with
    | some size => (.ok (fileOf path order.name size), s)
    | none => (.error (cannotStat path), s)
  | none, none => (.error "save request needs a path or a hash", s)

def save (s : Session) (now : Nat) (order : SaveOrder) (measured : Option Nat) :
    Action × Session :=
  match s.fileFor now order measured with
  | (.error reason, s) => (.warn (unwanted reason), s)
  | (.ok file, s) =>
    let task := Task.new s.nextId (.message file order.chat order.post) order.storage order.user
      order.dest
    (.submit task order.text, { s with nextId := s.nextId + 1 })

/-- What an order leads to. `measured` is the size of the path that the order measures, if it has
one. -/
def handle (s : Session) (now : Nat) (order : Order) (measured : Option Nat) : Action × Session :=
  match order with
  | .cancel chat post => (.cancel (.ofMessage chat post), s)
  | .save order => s.save now order measured
  | .announce path =>
    match measured with
    | none => (.warn (cannotAnnounce path), s)
    | some size =>
      match s.lookup.remember? now (fileOf path none size) with
      | none => (.halt, s)
      | some (hash, lookup) => (.print hash, { s with lookup })

end Session

end Courier.Command
