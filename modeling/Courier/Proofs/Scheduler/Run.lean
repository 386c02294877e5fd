import Courier.Scheduler.State
import Mathlib.Data.List.Perm.Basic

/-! Runs of the scheduler: the events that have happened, each with the state it happened in, and
what every kind of event does to the places where a task can be. -/
namespace Courier.Scheduler

/-- What has happened so far, first to last. -/
abbrev History := List (State × Event)

/-- A run from the start with a number of slots: what has happened, and the state it has led to. -/
inductive Run (slots : Nat) : History → State → Prop where
  | init : Run slots [] (.new slots)
  | step {past : History} {s s' : State} (event : Event) (run : Run slots past s)
      (happens : s.step? event = some s') : Run slots (past ++ [(s, event)]) s'

/-- The task that an event submits. -/
def Event.submits : Event → List Task
  | .submit task => [task]
  | _ => []

/-- The task whose transfer an event begins: a worker transfers a pending task as it takes it. -/
def State.begins (s : State) : Event → List TaskId
  | .take _ => (s.queue.entries.take 1).filterMap fun task =>
      if task.status = .pending then some task.id else none
  | _ => []

namespace History

/-- The tasks submitted so far, in order. -/
def submitted (past : History) : List Task :=
  past.flatMap fun (_, event) => event.submits

/-- The tasks whose transfers have begun so far, in order. -/
def begun (past : History) : List TaskId :=
  past.flatMap fun (s, event) => s.begins event

@[simp] theorem submitted_concat (past : History) (s : State) (event : Event) :
    submitted (past ++ [(s, event)]) = submitted past ++ event.submits := by
  simp [submitted]

@[simp] theorem begun_concat (past : History) (s : State) (event : Event) :
    begun (past ++ [(s, event)]) = begun past ++ s.begins event := by
  simp [begun]

end History

/-- The id of the task that a worker has, if any. -/
def Worker.taskIds : Worker → List TaskId
  | .busy task | .returning task => [task.id]
  | _ => []

namespace State

/-- The ids of the tasks that workers have. -/
def held (s : State) : List TaskId :=
  s.workers.flatMap Worker.taskIds

/-- The ids of the notified tasks, once for each notification. -/
def notified (s : State) : List TaskId :=
  s.reports.map (·.summary.id)

/-- The ids in all places where a task can be: the queue, the workers, what cancellations took out,
and the notifications. -/
def places (s : State) : List TaskId :=
  s.queue.entries.map (·.id) ++ s.held ++ s.removed.map (·.id) ++ s.notified

/-- The ids of the tasks in the queue that are still to be transferred. -/
def waiting (s : State) : List TaskId :=
  (s.queue.entries.filter (·.status == .pending)).map (·.id)

/-! What has to be for an event to happen, and the state after it. -/

variable {s s' : State} {index : Nat}

theorem step_acknowledge (h : s.step? (.acknowledge index) = some s') :
    ∃ task, s.removed[index]? = some task ∧
      s' = { s with removed := s.removed.eraseIdx index }.report task := by
  simp only [step?] at h
  split at h
  · contradiction
  · next task ht => exact ⟨task, ht, (Option.some.inj h).symm⟩

theorem step_acquire (h : s.step? (.acquire index) = some s') :
    s.workers[index]? = some .idle ∧ s.shutdown = false ∧
      ∃ limiter, s.limiter.acquire = (.granted, limiter) ∧
        s' = { s with limiter }.setWorker index .ready := by
  simp only [step?] at h
  split at h <;> try contradiction
  next hw =>
    split at h <;> try contradiction
    next hs =>
      split at h <;> try contradiction
      next limiter hl => exact ⟨hw, by simpa using hs, limiter, hl, (Option.some.inj h).symm⟩

theorem step_take (h : s.step? (.take index) = some s') :
    s.workers[index]? = some .ready ∧ s.shutdown = false ∧
      ∃ task queue, s.queue.pop? = some (task, queue) ∧
        s' = { s with queue }.setWorker index (.busy task) := by
  simp only [step?] at h
  split at h <;> try contradiction
  next hw =>
    split at h <;> try contradiction
    next hs =>
      split at h <;> try contradiction
      next task queue hq =>
        exact ⟨hw, by simpa using hs, task, queue, hq, (Option.some.inj h).symm⟩

theorem step_finish {task : Task} {result : Except TransferError Unit}
    (h : s.step? (.finish index task result) = some s') :
    ∃ held, s.workers[index]? = some (.busy held) ∧ held.status = .pending ∧ held.id = task.id ∧
      s' = s.setWorker index (.returning
        (ended { task with canceled := held.canceled || task.canceled } result)) := by
  simp only [step?] at h
  split at h <;> try contradiction
  next held hw =>
    split at h <;> try contradiction
    next hg =>
      simp only [Bool.and_eq_true, beq_iff_eq] at hg
      exact ⟨held, hw, hg.1, hg.2, (Option.some.inj h).symm⟩

theorem step_putBack (h : s.step? (.putBack index) = some s') :
    ∃ task, s.workers[index]? = some (.returning task) ∧
      s' = { s with queue := s.queue.push task }.setWorker index .spent := by
  simp only [step?] at h
  split at h <;> try contradiction
  next task hw => exact ⟨task, hw, (Option.some.inj h).symm⟩

theorem step_notify (h : s.step? (.notify index) = some s') :
    ∃ task, s.workers[index]? = some (.busy task) ∧ task.status.isTerminal = true ∧
      s' = (s.report task).setWorker index .spent := by
  simp only [step?] at h
  split at h <;> try contradiction
  next task hw =>
    split at h <;> try contradiction
    next ht => exact ⟨task, hw, ht, (Option.some.inj h).symm⟩

theorem step_release (h : s.step? (.release index) = some s') :
    s.workers[index]? = some .spent ∧
      s' = { s with limiter := s.limiter.release }.setWorker index .idle := by
  simp only [step?] at h
  split at h <;> try contradiction
  next hw => exact ⟨hw, (Option.some.inj h).symm⟩

theorem step_leave (h : s.step? (.leave index) = some s') :
    s.shutdown = true ∧
      (s.workers[index]? = some .idle ∧ s' = s.setWorker index .stopped ∨
        s.workers[index]? = some .ready ∧
          s' = { s with limiter := s.limiter.release }.setWorker index .stopped) := by
  simp only [step?] at h
  split at h <;> try contradiction
  next hs =>
    split at h <;> try contradiction
    · next hw => exact ⟨hs, .inl ⟨hw, (Option.some.inj h).symm⟩⟩
    · next hw => exact ⟨hs, .inr ⟨hw, (Option.some.inj h).symm⟩⟩

end State

end Courier.Scheduler
