import Courier.Error
import Courier.Scheduler.Limiter
import Courier.Scheduler.Queue

/-! The scheduler: a fixed number of workers take tasks from one queue. A pending task is
transferred, ended, and queued again; a task that has ended is notified. So each task passes the
queue twice. What may happen is a step from one state to the next. -/
namespace Courier.Scheduler

inductive Worker where
  /-- Has no permit yet. -/
  | idle
  /-- Has a permit and waits for a task. -/
  | ready
  /-- Has a permit and a task: one to be transferred, or one to be notified. -/
  | busy (task : Task)
  /-- Has a permit and a task whose transfer has ended, which goes back to the queue. -/
  | returning (task : Task)
  /-- Is done with its task and still has the permit. -/
  | spent
  | stopped
  deriving DecidableEq, Repr

structure Report where
  summary : Summary
  status : Status
  error : Option String
  deriving DecidableEq, Repr

structure State where
  queue : Queue
  limiter : Limiter
  workers : List Worker
  /-- Tasks taken out of the queue by cancellations, not notified yet. -/
  removed : List Task
  /-- Submitted tasks that have not been notified. -/
  outstanding : Nat
  shutdown : Bool
  /-- All notifications so far. -/
  reports : List Report

inductive Event where
  | submit (task : Task)
  | cancel (key : Key)
  /-- Notifies one of the tasks that were taken out; several cancellations do so side by side. -/
  | acknowledge (index : Nat)
  /-- Adds a worker for each slot. -/
  | start
  | acquire (worker : Nat)
  | take (worker : Nat)
  /-- Ends the transfer of a worker's task: the task as the transfer left it, and its result. -/
  | finish (worker : Nat) (task : Task) (result : Except TransferError Unit)
  /-- Queues the task of an ended transfer again. -/
  | putBack (worker : Nat)
  | notify (worker : Nat)
  /-- Gives the permit of a worker back. -/
  | release (worker : Nat)
  | leave (worker : Nat)
  | shutdown

namespace State

/-- As many slots as asked for, and at least one. -/
def new (slots : Nat) : State :=
  ⟨.empty, .new slots, [], [], 0, false, []⟩

def setWorker (s : State) (index : Nat) (worker : Worker) : State :=
  { s with workers := s.workers.set index worker }

def report (s : State) (task : Task) : State :=
  { s with
    reports := s.reports ++ [⟨task.summary, task.status, task.error⟩]
    outstanding := s.outstanding - 1 }

/-- Tells a worker's task of its cancellation. -/
def Worker.signal (signaled : List TaskId) : Worker → Worker
  | .busy task => .busy (if signaled.contains task.id then task.askCancel else task)
  | .returning task => .returning (if signaled.contains task.id then task.askCancel else task)
  | worker => worker

def cancel (s : State) (key : Key) : State :=
  let (cancellation, queue) := s.queue.cancel key
  { s with
    queue
    workers := s.workers.map (Worker.signal cancellation.signaled)
    removed := s.removed ++ cancellation.removed }

/-- Whether a cancellation of a key would find a task. -/
def canCancel (s : State) (key : Key) : Bool :=
  (s.queue.cancel key).1.found

/-- A task after its transfer. What ends a canceled task is no failure. -/
def ended (task : Task) (result : Except TransferError Unit) : Task :=
  let next := match result with
    | .ok () => task.advance .succeeded
    | .error e =>
      if e.isCanceled || task.canceled then task.advance .canceled else task.fail e.message
  next.toOption.getD task

/-- The next state, if the event can happen. -/
def step? (s : State) : Event → Option State
  | .submit task => some { s with queue := s.queue.push task, outstanding := s.outstanding + 1 }
  | .cancel key => some (s.cancel key)
  | .acknowledge index =>
    match s.removed[index]? with
    | none => none
    | some task => some ({ s with removed := s.removed.eraseIdx index }.report task)
  | .start => some { s with workers := s.workers ++ List.replicate s.limiter.slots .idle }
  | .acquire index =>
    match s.workers[index]? with
    | some .idle =>
      if s.shutdown then none
      else match s.limiter.acquire with
        | (.granted, limiter) => some ({ s with limiter }.setWorker index .ready)
        | _ => none
    | _ => none
  | .take index =>
    match s.workers[index]? with
    | some .ready =>
      if s.shutdown then none
      else match s.queue.pop? with
        | some (task, queue) => some ({ s with queue }.setWorker index (.busy task))
        | none => none
    | _ => none
  | .finish index task result =>
    match s.workers[index]? with
    | some (.busy held) =>
      if held.status == .pending && held.id == task.id then
        let task := { task with canceled := held.canceled || task.canceled }
        some (s.setWorker index (.returning (ended task result)))
      else none
    | _ => none
  | .putBack index =>
    match s.workers[index]? with
    | some (.returning task) => some ({ s with queue := s.queue.push task }.setWorker index .spent)
    | _ => none
  | .notify index =>
    match s.workers[index]? with
    | some (.busy task) =>
      if task.status.isTerminal then some ((s.report task).setWorker index .spent) else none
    | _ => none
  | .release index =>
    match s.workers[index]? with
    | some .spent => some ({ s with limiter := s.limiter.release }.setWorker index .idle)
    | _ => none
  | .leave index =>
    if s.shutdown then
      match s.workers[index]? with
      | some .idle => some (s.setWorker index .stopped)
      | some .ready => some ({ s with limiter := s.limiter.release }.setWorker index .stopped)
      | _ => none
    else none
  | .shutdown => some { s with shutdown := true, limiter := s.limiter.close }

/-- The next state, or the same one where the event cannot happen. -/
def step (s : State) (event : Event) : State :=
  (s.step? event).getD s

def stopped (s : State) : Nat :=
  s.workers.count .stopped

/-- Whether nobody has to wait for a notification any more. -/
def isDrained (s : State) : Bool :=
  s.outstanding == 0

end State

end Courier.Scheduler
