import Courier.Sandbox.Line
import Courier.Scheduler.State

/-! A scheduler at work in a world in memory. Its workers take turns, each goes on until it has to
wait, and the clock moves when all of them wait. -/
namespace Courier.Sandbox

open Scheduler (State Event Worker)

structure Machine where
  engine : Engine
  world : World
  state : State
  /-- The transfers under way, by worker. -/
  lines : List (Nat × Line)

namespace Machine

def apply (m : Machine) (event : Event) : Machine :=
  { m with state := m.state.step event }

def submit (m : Machine) (task : Task) : Machine :=
  m.apply (.submit task)

def start (m : Machine) : Machine :=
  m.apply .start

def shutdown (m : Machine) : Machine :=
  m.apply .shutdown

/-- Notifies the tasks that a cancellation took out of the queue. -/
def acknowledgeAll (m : Machine) : Machine :=
  { m with state := m.state.removed.foldl (fun s _ => s.step (.acknowledge 0)) m.state }

def cancel (m : Machine) (key : Key) : Bool × Machine :=
  let signaled := (m.state.queue.cancel key).1.signaled
  let world := signaled.foldl World.cancel m.world
  (m.state.canCancel key, ({ m with world }.apply (.cancel key)).acknowledgeAll)

/-- Ends a worker's transfer and queues its task again. -/
def finish (m : Machine) (worker : Nat) (task : Task) (result : Result) : Machine :=
  ((m.apply (.finish worker task result)).apply (.putBack worker)).apply (.release worker)

def notify (m : Machine) (worker : Nat) : Machine :=
  (m.apply (.notify worker)).apply (.release worker)

def absorb (m : Machine) (worker : Nat) : World × (Line ⊕ Line.Ended) → Machine
  | (world, .inl line) => { m with world, lines := m.lines ++ [(worker, line)] }
  | (world, .inr (task, result)) =>
    { m with world }.finish worker { task with canceled := world.isCanceled task.id } result

/-- Takes a worker's transfer out, if it can go on. -/
def readyLine? (m : Machine) (worker : Nat) : Option (Line × Machine) :=
  match m.lines.find? (·.1 == worker) with
  | some (_, line) =>
    if line.isReady m.world then
      some (line, { m with lines := m.lines.filter (·.1 != worker) })
    else none
  | none => none

/-- What a worker with a task does next, unless it has to wait. -/
def dispatch? (m : Machine) (worker : Nat) (task : Task) : Option Machine :=
  if task.status.isTerminal then some (m.notify worker)
  else if m.lines.any (·.1 == worker) then
    (m.readyLine? worker).map fun (line, m) => m.absorb worker (line.turn m.engine m.world)
  else some (m.absorb worker (Line.start m.engine task m.world))

/-- What a worker does next, unless it has to wait. -/
def advance? (m : Machine) (worker : Nat) : Option Machine :=
  match m.state.workers[worker]? with
  | some .idle =>
    if m.state.shutdown then some (m.apply (.leave worker))
    else (m.state.step? (.acquire worker)).map fun state => { m with state }
  | some .ready =>
    if m.state.shutdown then some (m.apply (.leave worker))
    else (m.state.step? (.take worker)).map fun state => { m with state }
  | some (.busy task) => m.dispatch? worker task
  | _ => none

/-- Whether a worker has just begun to wait, so that its turn is over. -/
def waits (m : Machine) (worker : Nat) : Bool :=
  m.lines.any (·.1 == worker)

/-- A worker's turn: it goes on until it waits, in so many steps at most. -/
def workerTurn (worker : Nat) : (steps : Nat) → Machine → Machine
  | 0, m => m
  | steps + 1, m =>
    match m.advance? worker with
    | none => m
    | some m => if m.waits worker then m else workerTurn worker steps m

def canDispatch (m : Machine) (worker : Nat) (task : Task) : Bool :=
  task.status.isTerminal ||
    match m.lines.find? (·.1 == worker) with
    | some (_, line) => line.isReady m.world
    | none => true

def canGoOn (m : Machine) : Bool :=
  (List.range m.state.workers.length).any fun worker =>
    match m.state.workers[worker]? with
    | some (.busy task) => m.canDispatch worker task
    | _ => (m.advance? worker).isSome

/-- A turn for every worker, after the alarms whose time has come. -/
def round (steps : Nat) (m : Machine) : Machine :=
  (List.range m.state.workers.length).foldl (fun m worker => workerTurn worker steps m)
    { m with world := m.world.ring }

/-- The next time that something waits for. -/
def nextTime? (m : Machine) : Option Nat :=
  (m.lines.filterMap (·.2.deadline?) ++ m.world.alarms.map (·.1)).min?

/-- Lets the workers run until a time comes or something has happened, in so many rounds at most;
the time itself comes before what waits for it. -/
def runUntil (deadline : Nat) (happened : Machine → Bool) : (rounds : Nat) → Machine → Machine
  | 0, m => m
  | rounds + 1, m =>
    let m := m.round rounds
    if happened m then m
    else if m.canGoOn then runUntil deadline happened rounds m
    else match m.nextTime? with
      | some time =>
        if time < deadline then
          runUntil deadline happened rounds { m with world := { m.world with now := time } }
        else { m with world := { m.world with now := deadline } }
      | none => { m with world := { m.world with now := deadline } }

def wait (rounds ms : Nat) (m : Machine) : Machine :=
  runUntil (m.world.now + ms) (fun _ => false) rounds m

/-- Waits until every submitted task has been notified, for a time at most, and tells whether they
have been. -/
def drain (rounds ms : Nat) (m : Machine) : Bool × Machine :=
  if m.state.isDrained then (true, m)
  else
    let m := runUntil (m.world.now + ms) (·.state.isDrained) rounds m
    (m.state.isDrained, m)

/-- Waits for each worker to leave, for a time at most each, and counts those that have left. -/
def join (rounds ms : Nat) (m : Machine) : Nat × Machine :=
  let m := (List.range m.state.workers.length).foldl (fun m worker =>
    let left (m : Machine) := m.state.workers[worker]? == some .stopped
    if left m then m else runUntil (m.world.now + ms) left rounds m) m
  (m.state.stopped, m)

end Machine

end Courier.Sandbox
