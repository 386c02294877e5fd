import Courier.Command.Libraries
import Courier.Command.Session
import Courier.Config.Reader
import Courier.Sandbox.Machine

/-! The command run in a world in memory, from its arguments to its end. All orders are read before
the workers begin. -/
namespace Courier.Sandbox

open Command (Action Invocation Note Options Order Record Session)

structure Console where
  code : Nat
  files : FileTree
  printed : List String := []
  /-- Why the run ended early. -/
  failure : Option TransferError := none
  log : List Record := []
  notes : List Note := []

structure Desk where
  session : Session
  machine : Machine
  root : Option String
  printed : List String
  log : List Record
  /-- Whether the command has ended in the midst of its input. -/
  halted : Bool := false

namespace Desk

/-- How long the machine has been up when the command begins, for the clock counts from then on. -/
def uptime : Nat := 3600000

/-- The size of the path that an order measures. -/
def measure (d : Desk) (order : Order) : Option Nat :=
  order.measures.bind fun path =>
    (d.machine.world.files.size (Disk.sourcePath d.root path)).toOption

def write (d : Desk) (record : Record) : Desk :=
  { d with log := d.log ++ [record] }

/-- Records the text of a task's message. -/
def recordText (d : Desk) (task : Task) (text : Option String) : Desk :=
  match task.origin, text with
  | .message _ chat post, some text =>
    let world := d.machine.world
    let directory := { world.directory with texts := world.directory.texts.record chat post text }
    { d with machine := { d.machine with world := { world with directory } } }
  | _, _ => d

def act (d : Desk) : Action → Desk
  | .print line => { d with printed := d.printed ++ [line] }
  | .submit task text =>
    let d := d.recordText task text
    { d with machine := d.machine.submit task }
  | .cancel key =>
    let (found, machine) := d.machine.cancel key
    let d := { d with machine }
    if found then d else d.write (Command.nothingToCancel key)
  | .warn record => d.write record
  | .halt => { d with halted := true }

def feed (d : Desk) (line : String) : Desk :=
  if d.halted then d
  else match Command.trimmed line with
  | [] => d
  | line =>
    match Order.ofLine? line with
    | none => d.write Command.malformed
    | some order =>
      let now := uptime + d.machine.world.now
      let (action, session) := d.session.handle now order (d.measure order)
      { d with session }.act action

/-- How long the end of all transfers is waited for. -/
def patience : Nat := 0x1000000000000000

def close (d : Desk) (rounds : Nat) : Desk :=
  if d.halted then d else
  let d := d.write (Command.draining d.machine.state.queue.length d.machine.state.outstanding)
  let (_, machine) := d.machine.drain rounds patience
  let (_, machine) := machine.shutdown.join rounds patience
  { d with machine }.write (Command.finished d.session.lookup.size)

def notes (d : Desk) : List Note :=
  d.machine.world.reports.map (fun (summary, read, total) => .progress summary read total) ++
    d.machine.state.reports.map .ended

end Desk

namespace Console

def configure (options : Options) (files : FileTree) : Except TransferError Config := do
  let config ← match options.config with
    | none => pure {}
    | some path => (Config.ofContent path (files.read path)).mapError .config
  let config := options.apply config
  config.validate.mapError .config
  return config

def openLog (config : Config) (files : FileTree) : Except TransferError FileTree :=
  match config.logFile with
  | none => .ok files
  | some path => (files.create path).mapError (.file path)

def openDesk (options : Options) (config : Config) (files : FileTree) :
    Except TransferError Desk := do
  let (built, engine) ← Command.engineOf .standard config
  let world : World := {
    files
    source := .disk options.root
    directory := .ofConfig config .empty
    retention := config.retention.map Command.milliseconds }
  return {
    session := .new config
    machine := Machine.start ⟨engine, world, .new config.workers, []⟩
    root := options.root
    printed := []
    log := [Command.starting built config.workers] }

def open? (options : Options) (files : FileTree) : Except TransferError (Config × Desk) := do
  let config ← configure options files
  let files ← openLog config files
  return (config, ← openDesk options config files)

/-- Runs the command on lines of input, in so many rounds of its workers at most. -/
def run (rounds : Nat) (args lines : List String) (files : FileTree) : Console :=
  match Command.invocation args with
  | .misuse => { code := 2, files }
  | .help => { code := 0, files, printed := Command.helpText.splitOn "\n" }
  | .version => { code := 0, files, printed := [Command.versionText] }
  | .run options =>
    match open? options files with
    | .error e => { code := 1, files, failure := some e }
    | .ok (config, desk) =>
      let desk := (lines.foldl Desk.feed desk).close rounds
      let level := config.effectiveLevel
      { code := if desk.halted then 101 else 0
        files := desk.machine.world.files
        printed := desk.printed
        log := desk.log.filter (level.admits ·.level)
        notes := desk.notes.filter (level.admits ·.level) }

end Console

end Courier.Sandbox
