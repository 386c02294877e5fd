import Courier.Sandbox.World
import Courier.Transfer.Job

/-! Activities in a world: they act at once or wait for a while. An activity is a function of the world
to its outcome, and an outcome that waits goes on in the world as it is by then. -/
namespace Courier.Sandbox

inductive Outcome (α : Type) where
  | done (a : α) (w : World)
  /-- Waits a number of milliseconds, or shorter if the watched task is canceled. A wait of no time
  lets others have their turn. -/
  | wait (ms : Nat) (watch : Option TaskId) (w : World) (next : World → Outcome α)

abbrev Activity (α : Type) := World → Outcome α

variable {α β : Type}

namespace Outcome

def bind (outcome : Outcome α) (f : α → Activity β) : Outcome β :=
  match outcome with
  | done a w => f a w
  | wait ms watch w next => wait ms watch w fun w => (next w).bind f

/-- Gives an activity up when a task is canceled. The cancellation counts first whenever it
could go on. -/
def race (task : TaskId) : Outcome α → Outcome (Option α)
  | done a w => done (some a) w
  | wait ms _ w next => wait ms (some task) w fun w =>
    if w.isCanceled task then done none w else (next w).race task

/-- Runs an activity to its end while nothing else runs. -/
def settle : Outcome α → α × World
  | done a w => (a, w)
  | wait ms watch w next => (next (w.pass (w.now + ms) watch)).settle

end Outcome

namespace Activity

def bind (p : Activity α) (f : α → Activity β) : Activity β :=
  fun w => (p w).bind f

instance : Monad Activity where
  pure a := fun w => .done a w
  bind := bind

def act (f : World → α × World) : Activity α :=
  fun w => let (a, w) := f w; .done a w

def look (f : World → α) : Activity α :=
  fun w => .done (f w) w

/-- Lets others have their turn, as every operation on files does. -/
def yield : Activity Unit :=
  fun w => .wait 0 none w fun w => .done () w

def sleep (ms : Nat) : Activity Unit :=
  fun w => if ms = 0 then .done () w else .wait ms none w fun w => .done () w

/-- Waits for a time, or until a task is canceled, and tells whether it is. Nobody looks when there
is no time to wait. -/
def sleepUnless (task : TaskId) (ms : Nat) : Activity Bool :=
  fun w =>
    if ms = 0 then .done false w
    else if w.isCanceled task then .done true w
    else .wait ms (some task) w fun w => .done (w.isCanceled task) w

/-- An activity that is given up when a task is canceled; a canceled task's is not begun. -/
def race (task : TaskId) (p : Activity α) : Activity (Option α) :=
  fun w => if w.isCanceled task then .done none w else (p w).race task

def onFiles (f : FileTree → α × FileTree) : Activity α := do
  let a ← act fun w =>
    let (a, files) := f w.files
    (a, { w with files })
  yield
  return a

/-- An operation that leaves the file system as it is when it fails. -/
def changeFiles (f : FileTree → Except OsError FileTree) : Activity (Except OsError Unit) :=
  onFiles fun files =>
    match f files with
    | .ok files => (.ok (), files)
    | .error e => (.error e, files)

end Activity

/-- Runs a job in a world that answers its questions. -/
def runJob (answer : (r : Request) → Activity r.Reply) : Job α → Activity α
  | .done a => fun w => .done a w
  | .ask r next => fun w => (answer r w).bind fun reply => runJob answer (next reply)

end Courier.Sandbox
