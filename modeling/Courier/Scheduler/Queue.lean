import Courier.Task.Basic

/-! The queue that producers and workers share: first in, first out. Pending tasks that a worker has
taken are remembered as active until they come back ended, so that a cancellation can reach them. -/
namespace Courier

structure Queue where
  entries : List Task
  /-- Tasks in flight, each once. -/
  active : List (TaskId × Key)

/-- What a request to cancel has met. -/
structure Cancellation where
  /-- Tasks in flight, which have to be told. -/
  signaled : List TaskId
  /-- Tasks taken out of the queue, already ended as canceled. -/
  removed : List Task

namespace Cancellation

def found (c : Cancellation) : Bool :=
  !c.signaled.isEmpty || !c.removed.isEmpty

end Cancellation

namespace Queue

def empty : Queue := ⟨[], []⟩

def length (q : Queue) : Nat :=
  q.entries.length

/-- Appends a task. One that has ended is no longer active. -/
def push (q : Queue) (task : Task) : Queue where
  entries := q.entries ++ [task]
  active := if task.status.isTerminal then q.active.filter (·.1 != task.id) else q.active

/-- Takes the first task. One that is pending becomes active. -/
def pop? (q : Queue) : Option (Task × Queue) :=
  match q.entries with
  | [] => none
  | task :: rest =>
    let active := if task.status == .pending then
      (task.id, task.key) :: q.active.filter (·.1 != task.id) else q.active
    some (task, ⟨rest, active⟩)

theorem entries_of_pop? {queue rest : Queue} {task : Task} (popped : queue.pop? = some (task, rest)) :
    queue.entries = task :: rest.entries := by
  unfold pop? at popped
  split at popped
  · contradiction
  · next first others same =>
    obtain ⟨rfl, rfl⟩ := Prod.mk.inj (Option.some.inj popped)
    exact same

theorem active_of_pop? {queue rest : Queue} {task : Task} (popped : queue.pop? = some (task, rest)) :
    rest.active = if task.status = .pending then
      (task.id, task.key) :: queue.active.filter (·.1 != task.id) else queue.active := by
  unfold pop? at popped
  split at popped
  · contradiction
  · obtain ⟨rfl, rfl⟩ := Prod.mk.inj (Option.some.inj popped)
    simp only [beq_iff_eq]

/-- Whether a queued task is one that a cancellation of a key takes out. -/
def isMeant (key : Key) (task : Task) : Bool :=
  task.status == .pending && task.key == key

/-- Cancels all tasks of a key: those in flight are to be told, those that wait are taken out. -/
def cancel (q : Queue) (key : Key) : Cancellation × Queue :=
  let signaled := (q.active.filter (·.2 == key)).map (·.1)
  let removed := (q.entries.filter (isMeant key)).map fun task =>
    { task with canceled := true, status := .canceled }
  (⟨signaled, removed⟩, { q with entries := q.entries.filter (!isMeant key ·) })

end Queue

end Courier
