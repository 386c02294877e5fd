import Courier.Command.Libraries
import Courier.Command.Session
import Courier.Config.Reader
import Courier.Disk.Source
import Courier.Json.Printer
import Courier.Rule.Lookup

/-! The command: orders come in on standard input, workers carry files of this machine to storages on
it, and the command ends when every task has been notified. -/
namespace Courier.Command

open Scheduler (Event State Worker)

def osError : IO.Error → OsError
  | .noFileOrDirectory .. => .noEntry
  | .alreadyExists .. => .alreadyExists
  | .inappropriateType _ 20 _ => .notDirectory
  | .inappropriateType _ 21 _ => .isDirectory
  | .invalidArgument _ 36 _ => .nameTooLong
  | e => .reported (toString e)

def guarded {α : Type} (act : IO α) : IO (Except OsError α) :=
  try return .ok (← act) catch e => return .error (osError e)

def asCall {α : Type} (result : Except OsError α) : Except CallError α :=
  result.mapError .os

/-- A running command. -/
structure Host where
  config : Config
  engine : Engine
  root : Option String
  state : IO.Ref State
  texts : IO.Ref MessageTexts
  /-- Cache files to be removed, with their times. -/
  removals : IO.Ref (List (Nat × String))
  write : Record → IO Unit

namespace Host

def put (host : Host) (record : Record) : IO Unit := do
  if host.config.effectiveLevel.admits record.level then host.write record

def apply (host : Host) (event : Event) : IO Unit := do
  let reports ← host.state.modifyGet fun s =>
    let next := s.step event
    (next.reports.drop s.reports.length, next)
  for report in reports do
    host.put (Note.ended report).record

def isCanceled (host : Host) (id : TaskId) : IO Bool :=
  return (← host.state.get).workers.any fun worker =>
    match worker with
    | .busy task | .returning task => task.id == id && task.canceled
    | _ => false

/-! Files. -/

def makeDirectories (path : String) : IO Unit := do
  unless path.isEmpty do IO.FS.createDirAll path

def discard (path : String) : IO Unit :=
  try IO.FS.removeFile path catch _ => return ()

/-- Bytes handled at once. -/
def portion : Nat := 65536

/-- Reads on until so many bytes have been read, or to the end, and hands over each portion. -/
partial def readOn (file : IO.FS.Handle) (left : Nat) (use : Bytes → IO Unit) : IO Unit := do
  let bytes ← file.read (min left portion).toUSize
  unless bytes.isEmpty do
    use bytes
    readOn file (left - bytes.size) use

def readSlice (path : String) (offset want : Nat) : IO Bytes := do
  let file ← IO.FS.Handle.mk path .read
  readOn file offset fun _ => return ()
  let found ← IO.mkRef ByteArray.empty
  readOn file want fun bytes => found.modify (· ++ bytes)
  found.get

def sizeOf (path : String) : IO Nat := do
  let place ← IO.FS.realPath path
  return (← place.metadata).byteSize.toNat

/-- The size of an object and some of its bytes. -/
def fetch (host : Host) (location : String) (offset want : Nat) : IO (Except CallError Bytes) := do
  let path := Disk.sourcePath host.root location
  match ← guarded (sizeOf path) with
  | .error .noEntry => return .error (.notFound path)
  | .error e => return .error (.os e)
  | .ok size =>
    let want := min want (size - offset)
    if want = 0 then return .ok ByteArray.empty
    return asCall (← guarded (readSlice path offset want))

def copy (source target : String) : IO Unit := do
  if let some parent := FileTree.parent? target then makeDirectories parent
  let input ← IO.FS.Handle.mk source .read
  let output ← IO.FS.Handle.mk target .write
  readOn input (← sizeOf source) output.write
  output.flush

def save (host : Host) (id : TaskId) (source target : String) : IO (Except CallError Unit) := do
  let result ← if ← host.isCanceled id then pure (.error .canceled)
    else asCall <$> guarded (copy source target)
  if let .error _ := result then discard target
  return result

def dispose (host : Host) (path : String) : IO Unit := do
  match host.config.retention with
  | none => discard path
  | some seconds =>
    let time := (← IO.monoMsNow) + milliseconds seconds
    host.removals.modify ((time, path) :: ·)

/-- Removes the cache files whose time has come. -/
def sweep (host : Host) : IO Unit := do
  let now ← IO.monoMsNow
  let due ← host.removals.modifyGet fun all => all.partition (·.1 ≤ now)
  for (_, path) in due do discard path

/-! Transfers. -/

/-- A call that is given up when the task is canceled. -/
def raced {α : Type} (host : Host) (id : TaskId) (call : IO (Except CallError α)) :
    IO (Request.Raced α) := do
  if ← host.isCanceled id then return none
  return some (← call)

def noArticles : CallError := .unsupported "courier" "article"

def answer (host : Host) (id : TaskId) : (r : Request) → IO r.Reply
  | .canceled => host.isCanceled id
  | .userRules user => return host.config.rulesFor user
  | .messageText chat post => return .ok ((← host.texts.get).get? chat post)
  | .makeDirectories path => guarded (makeDirectories path)
  | .createFile path => guarded (IO.FS.writeBinFile path ByteArray.empty)
  | .appendFile path more => guarded do (← IO.FS.Handle.mk path .append).write more
  | .writeFile path content => guarded (IO.FS.writeBinFile path content)
  | .readHead path most => guarded (readSlice path 0 most)
  | .fetchChunk location offset limit => host.raced id (host.fetch location offset limit)
  | .fetchWhole location limit => host.raced id (host.fetch location 0 limit)
  | .save .disk localPath remotePath => host.save id localPath remotePath
  | .save (.backend _) _ _ => return .error (.unsupported "courier" "save")
  | .page _ => return some (.error noArticles)
  | .image _ => return some (.error noArticles)
  | .dispose path => host.dispose path
  | .progress summary read total => host.put (Note.progress summary read total).record

def perform {α : Type} (host : Host) (id : TaskId) : Job α → IO α
  | .done a => return a
  | .ask r next => do perform host id (next (← host.answer id r))

def transfer (host : Host) (worker : Nat) (task : Task) : IO Unit := do
  let (task, stage) ← host.perform task.id (Transfer.run host.engine task)
  let result := match stage with
    | .ended result => result
    | .images .. => .error (.article .notConfigured)
  host.apply (.finish worker task result)

/-- How long nothing is done when there is nothing to do. -/
def pause : UInt32 := 5

/-- What a worker without a task to work on may do. -/
def nextEvent (s : State) (worker : Nat) : Event :=
  match s.workers[worker]? with
  | some (.returning _) => .putBack worker
  | some .spent => .release worker
  | some .idle => if s.shutdown then .leave worker else .acquire worker
  | _ => if s.shutdown then .leave worker else .take worker

partial def work (host : Host) (worker : Nat) : IO Unit := do
  host.sweep
  let s ← host.state.get
  match s.workers[worker]? with
  | some (.busy task) =>
    if task.status.isTerminal then host.apply (.notify worker) else host.transfer worker task
    host.work worker
  | some .stopped | none => return
  | some before =>
    host.apply (nextEvent s worker)
    if (← host.state.get).workers[worker]? == some before then IO.sleep pause
    host.work worker

/-! Orders. -/

def cancel (host : Host) (key : Key) : IO Unit := do
  let found := (← host.state.get).canCancel key
  host.apply (.cancel key)
  for _ in (← host.state.get).removed do host.apply (.acknowledge 0)
  unless found do host.put (nothingToCancel key)

def act (host : Host) : Action → IO Unit
  | .print line => IO.println line
  | .submit task text => do
    if let (.message _ chat post, some text) := (task.origin, text) then
      host.texts.modify (·.record chat post text)
    host.apply (.submit task)
  | .cancel key => host.cancel key
  | .warn record => host.put record
  | .halt => return

def measure (host : Host) (order : Order) : IO (Option Nat) := do
  let some path := order.measures | return none
  return (← guarded (sizeOf (Disk.sourcePath host.root path))).toOption

def feed (host : Host) (session : Session) (line : List Char) : IO (Option Session) := do
  match Order.ofLine? line with
  | none =>
    host.put malformed
    return session
  | some order =>
    let (action, session) := session.handle (← IO.monoMsNow) order (← host.measure order)
    host.act action
    if action matches .halt then return none
    return session

/-- Takes lines up to the end of the input, or to one that ends the command. -/
partial def serve (host : Host) (input : IO.FS.Stream) (session : Session) :
    IO (Option Session) := do
  let line ← input.getLine
  if line.isEmpty then return session
  match trimmed line with
  | [] => host.serve input session
  | line =>
    let some session ← host.feed session line | return none
    host.serve input session

partial def drain (host : Host) : IO Unit := do
  unless (← host.state.get).isDrained do
    IO.sleep pause
    host.drain

/-- Runs from the first order to the end of the last transfer; the code that the command ends with. -/
def run (host : Host) (built : Nat) : IO UInt32 := do
  host.put (starting built host.config.workers)
  host.apply .start
  let workers ← (List.range (← host.state.get).workers.length).mapM fun worker =>
    IO.asTask (host.work worker) .dedicated
  let some session ← host.serve (← IO.getStdin) (.new host.config) | return 101
  let s ← host.state.get
  host.put (draining s.queue.length s.outstanding)
  host.drain
  host.apply .shutdown
  for worker in workers do IO.ofExcept worker.get
  host.put (finished session.lookup.size)
  return 0

end Host

def configure (options : Options) : ExceptT TransferError IO Config := do
  let config ← match options.config with
    | none => pure {}
    | some path =>
      let content ← guarded (IO.FS.readBinFile path)
      ExceptT.mk (return (Config.ofContent path content).mapError .config)
  let config := options.apply config
  ExceptT.mk (return config.validate.mapError .config)
  return config

/-- Where records go: to the log file as JSON, or to standard output. -/
def openLog (config : Config) : ExceptT TransferError IO (Record → IO Unit) := do
  match config.logFile with
  | none => return fun record => IO.println record.line
  | some path =>
    let file ← ExceptT.mk do
      return (← guarded (IO.FS.Handle.mk path .write)).mapError (.file path)
    return fun record => do
      file.putStrLn (Json.written record.entry)
      file.flush

def openHost (options : Options) : ExceptT TransferError IO (Host × Nat) := do
  let config ← configure options
  let write ← openLog config
  let (built, engine) ← ExceptT.mk (return engineOf .standard config)
  let state ← IO.mkRef (State.new config.workers)
  let texts ← IO.mkRef MessageTexts.empty
  let removals ← IO.mkRef []
  return ({ config, engine, root := options.root, state, texts, removals, write }, built)

def start (options : Options) : IO UInt32 := do
  match ← (openHost options).run with
  | .error e =>
    IO.eprintln ("Error: " ++ e.message)
    return 1
  | .ok (host, built) => host.run built

end Courier.Command

def main (args : List String) : IO UInt32 := do
  match Courier.Command.invocation args with
  | .run options => Courier.Command.start options
  | .help =>
    IO.println Courier.Command.helpText
    return 0
  | .version =>
    IO.println Courier.Command.versionText
    return 0
  | .misuse =>
    IO.eprintln "Usage: courier [OPTIONS]"
    return 2
