import Courier.Proofs.Scheduler.Run
import Mathlib.Data.List.Nodup

/-! The places where a task can be, and how events move tasks between them. Nothing but a submission
adds a task, nothing takes one away, and a task that has ended is never transferred again. -/
namespace Courier.Scheduler

theorem flatMap_set_count (has : Worker → List TaskId) {workers : List Worker} {index : Nat}
    {before : Worker} (after : Worker) (h : workers[index]? = some before) (id : TaskId) :
    ((workers.set index after).flatMap has).count id + (has before).count id =
      (workers.flatMap has).count id + (has after).count id := by
  obtain ⟨hi, rfl⟩ := List.getElem?_eq_some_iff.mp h
  have hset := ((List.set_perm_cons_eraseIdx hi after).flatMap_right has).count_eq id
  have hold := ((List.getElem_cons_eraseIdx_perm hi).flatMap_right has).count_eq id
  rw [List.flatMap_cons, List.count_append] at hset hold
  omega

theorem signal_taskIds (signaled : List TaskId) (worker : Worker) :
    (State.Worker.signal signaled worker).taskIds = worker.taskIds := by
  cases worker <;> simp only [State.Worker.signal, Worker.taskIds]
  all_goals split <;> rfl

theorem ended_id (task : Task) (result : Except TransferError Unit) :
    (State.ended task result).id = task.id := by
  unfold State.ended Task.fail Task.advance
  rcases result with e | u <;> simp only
  · split <;> split <;> rfl
  · split <;> rfl

theorem ended_isTerminal (task : Task) (result : Except TransferError Unit) :
    (State.ended task result).status.isTerminal = true := by
  unfold State.ended Task.fail Task.advance
  by_cases hs : task.status = .pending
  · rcases result with e | u <;> simp only [hs]
    · split <;> rfl
    · rfl
  · have hc (next : Status) : task.status.canBecome next = false := by
      simp [Status.canBecome, hs]
    have ht : task.status.isTerminal = true := by
      cases h : task.status <;> simp_all [Status.isTerminal]
    rcases result with e | u <;> simp only [hc]
    · split <;> exact ht
    · exact ht

namespace State

variable {s s' : State} {event : Event}

theorem places_count (s : State) (id : TaskId) : s.places.count id =
    (s.queue.entries.map (·.id)).count id + s.held.count id + (s.removed.map (·.id)).count id +
      s.notified.count id := by
  simp only [places, List.count_append]

theorem held_cancel (s : State) (key : Key) : (s.cancel key).held = s.held := by
  simp only [held, cancel, Queue.cancel, List.flatMap_map, signal_taskIds]

theorem cancel_places_count (s : State) (key : Key) (id : TaskId) :
    (s.cancel key).places.count id = s.places.count id := by
  have hq : (s.queue.entries.map (·.id)).count id =
      ((s.queue.entries.filter (Queue.isMeant key)).map (·.id)).count id +
        ((s.queue.entries.filter (!Queue.isMeant key ·)).map (·.id)).count id := by
    rw [← List.count_append, ← List.map_append]
    exact ((List.filter_append_perm _ _).symm.map _).count_eq id
  rw [places_count, places_count, held_cancel, hq]
  simp only [notified, cancel, Queue.cancel, List.map_append, List.map_map, Function.comp_def,
    List.count_append]
  omega

@[simp] theorem push_entries (queue : Queue) (task : Task) :
    (queue.push task).entries = queue.entries ++ [task] := rfl

theorem setWorker_places_count {index : Nat} {before : Worker} (after : Worker)
    (h : s.workers[index]? = some before) (id : TaskId) :
    (s.setWorker index after).places.count id + before.taskIds.count id =
      s.places.count id + after.taskIds.count id := by
  have hh := flatMap_set_count Worker.taskIds after h id
  rw [places_count, places_count]
  simp only [held, notified, setWorker]
  omega

theorem report_places_count (s : State) (task : Task) (id : TaskId) :
    (s.report task).places.count id = s.places.count id + [task.id].count id := by
  simp only [places, held, notified, report, Task.summary, List.map_append, List.count_append,
    List.map_cons, List.map_nil]
  omega

theorem queue_places_count (s : State) (queue : Queue) (id : TaskId) :
    ({ s with queue } : State).places.count id + (s.queue.entries.map (·.id)).count id =
      s.places.count id + (queue.entries.map (·.id)).count id := by
  simp only [places, held, notified, List.count_append]
  omega

theorem removed_places_count (s : State) {index : Nat} {task : Task}
    (h : s.removed[index]? = some task) (id : TaskId) :
    ({ s with removed := s.removed.eraseIdx index } : State).places.count id +
      [task.id].count id = s.places.count id := by
  obtain ⟨hi, rfl⟩ := List.getElem?_eq_some_iff.mp h
  have hr := ((List.getElem_cons_eraseIdx_perm hi).map (·.id)).count_eq id
  rw [List.map_cons, ← List.singleton_append, List.count_append] at hr
  simp only [places, held, notified, List.count_append]
  omega

/-- Every event leaves each task where it is or moves it from one place to another, and a submission
puts one into the queue. -/
theorem step_places_count (h : s.step? event = some s') (id : TaskId) :
    s'.places.count id = s.places.count id + (event.submits.map (·.id)).count id := by
  cases event with
  | submit task =>
    cases h
    have hq := queue_places_count s (s.queue.push task) id
    rw [push_entries, List.map_append, List.count_append] at hq
    change ({ s with queue := s.queue.push task } : State).places.count id =
      s.places.count id + ([task].map (·.id)).count id
    omega
  | cancel key =>
    cases h
    exact cancel_places_count s key id
  | acknowledge index =>
    obtain ⟨task, ht, rfl⟩ := step_acknowledge h
    rw [report_places_count, removed_places_count s ht]
    rfl
  | start =>
    cases h
    have hn : (List.replicate s.limiter.slots Worker.idle).flatMap Worker.taskIds = [] := by
      rw [List.flatMap_replicate]
      exact List.flatten_replicate_nil
    simp only [places_count, held, notified, Event.submits, List.flatMap_append, hn,
      List.append_nil]
    rfl
  | acquire index =>
    obtain ⟨hw, _, limiter, _, rfl⟩ := step_acquire h
    exact setWorker_places_count (s := { s with limiter }) .ready hw id
  | take index =>
    obtain ⟨hw, _, task, queue, hq, rfl⟩ := step_take h
    have hs := setWorker_places_count (s := { s with queue }) (.busy task) hw id
    have ht := queue_places_count s queue id
    rw [Queue.entries_of_pop? hq, List.map_cons, ← List.singleton_append, List.count_append] at ht
    simp only [Worker.taskIds, Event.submits, List.map_nil, List.count_nil] at hs ⊢
    omega
  | finish index task result =>
    obtain ⟨held, hw, _, hid, rfl⟩ := step_finish h
    have hs := setWorker_places_count (.returning (ended { task with
      canceled := held.canceled || task.canceled } result)) hw id
    simp only [Worker.taskIds, ended_id, hid] at hs
    simp only [Event.submits, List.map_nil, List.count_nil]
    omega
  | putBack index =>
    obtain ⟨task, hw, rfl⟩ := step_putBack h
    have hs := setWorker_places_count (s := { s with queue := s.queue.push task }) .spent hw id
    have hq := queue_places_count s (s.queue.push task) id
    rw [push_entries, List.map_append, List.count_append, List.map_singleton] at hq
    simp only [Worker.taskIds, Event.submits, List.map_nil, List.count_nil] at hs ⊢
    omega
  | notify index =>
    obtain ⟨task, hw, _, rfl⟩ := step_notify h
    have hs := setWorker_places_count (s := s.report task) .spent hw id
    rw [report_places_count] at hs
    simp only [Worker.taskIds, Event.submits, List.map_nil, List.count_nil] at hs ⊢
    omega
  | release index =>
    obtain ⟨hw, rfl⟩ := step_release h
    exact setWorker_places_count (s := { s with limiter := s.limiter.release }) .idle hw id
  | leave index =>
    obtain ⟨_, ⟨hw, rfl⟩ | ⟨hw, rfl⟩⟩ := step_leave h
    · exact setWorker_places_count .stopped hw id
    · exact setWorker_places_count (s := { s with limiter := s.limiter.release }) .stopped hw id
  | shutdown =>
    cases h
    rfl

/-- An event that delivers a notification has its task from a cancellation or from a worker. -/
theorem step_reports (h : s.step? event = some s') :
    s'.reports = s.reports ∧ s'.outstanding = s.outstanding + event.submits.length ∨
      ∃ task, (task ∈ s.removed ∨ .busy task ∈ s.workers ∧ task.status.isTerminal = true) ∧
        event.submits = [] ∧ s'.reports = s.reports ++ [⟨task.summary, task.status, task.error⟩] ∧
        s'.outstanding = s.outstanding - 1 := by
  cases event with
  | acknowledge index =>
    obtain ⟨task, ht, rfl⟩ := step_acknowledge h
    exact .inr ⟨task, .inl (List.mem_of_getElem? ht), rfl, rfl, rfl⟩
  | notify index =>
    obtain ⟨task, hw, ht, rfl⟩ := step_notify h
    exact .inr ⟨task, .inr ⟨List.mem_of_getElem? hw, ht⟩, rfl, rfl, rfl⟩
  | acquire index =>
    obtain ⟨_, _, _, _, rfl⟩ := step_acquire h
    exact .inl ⟨rfl, rfl⟩
  | take index =>
    obtain ⟨_, _, _, _, _, rfl⟩ := step_take h
    exact .inl ⟨rfl, rfl⟩
  | finish index task result =>
    obtain ⟨_, _, _, _, rfl⟩ := step_finish h
    exact .inl ⟨rfl, rfl⟩
  | putBack index =>
    obtain ⟨_, _, rfl⟩ := step_putBack h
    exact .inl ⟨rfl, rfl⟩
  | release index =>
    obtain ⟨_, rfl⟩ := step_release h
    exact .inl ⟨rfl, rfl⟩
  | leave index =>
    obtain ⟨_, ⟨_, rfl⟩ | ⟨_, rfl⟩⟩ := step_leave h <;> exact .inl ⟨rfl, rfl⟩
  | submit _ | cancel _ | start | shutdown =>
    cases h
    exact .inl ⟨rfl, rfl⟩

/-- What has left the hands of a transfer or of a cancellation has ended. -/
structure Settled (s : State) : Prop where
  removed : ∀ task ∈ s.removed, task.status.isTerminal = true
  returning : ∀ task, .returning task ∈ s.workers → task.status.isTerminal = true
  reported : ∀ report ∈ s.reports, report.status.isTerminal = true

theorem Settled.reports_step (settled : s.Settled) (h : s.step? event = some s') :
    ∀ report ∈ s'.reports, report.status.isTerminal = true := by
  obtain ⟨hr, _⟩ | ⟨task, ht, _, hr, _⟩ := step_reports h
  · rw [hr]
    exact settled.reported
  · rw [hr]
    intro report hm
    rcases List.mem_append.mp hm with hm | hm
    · exact settled.reported report hm
    · rw [List.mem_singleton.mp hm]
      rcases ht with ht | ⟨_, ht⟩
      · exact settled.removed task ht
      · exact ht

theorem Settled.removed_step (settled : s.Settled) (h : s.step? event = some s') :
    ∀ task ∈ s'.removed, task.status.isTerminal = true := by
  cases event with
  | cancel key =>
    cases h
    intro task hm
    rcases List.mem_append.mp hm with hm | hm
    · exact settled.removed task hm
    · obtain ⟨_, _, rfl⟩ := List.mem_map.mp hm
      rfl
  | acknowledge index =>
    obtain ⟨_, _, rfl⟩ := step_acknowledge h
    exact fun task hm => settled.removed task (List.mem_of_mem_eraseIdx hm)
  | notify index =>
    obtain ⟨_, _, _, rfl⟩ := step_notify h
    exact settled.removed
  | acquire index =>
    obtain ⟨_, _, _, _, rfl⟩ := step_acquire h
    exact settled.removed
  | take index =>
    obtain ⟨_, _, _, _, _, rfl⟩ := step_take h
    exact settled.removed
  | finish index task result =>
    obtain ⟨_, _, _, _, rfl⟩ := step_finish h
    exact settled.removed
  | putBack index =>
    obtain ⟨_, _, rfl⟩ := step_putBack h
    exact settled.removed
  | release index =>
    obtain ⟨_, rfl⟩ := step_release h
    exact settled.removed
  | leave index =>
    obtain ⟨_, ⟨_, rfl⟩ | ⟨_, rfl⟩⟩ := step_leave h <;> exact settled.removed
  | submit _ | start | shutdown =>
    cases h
    exact settled.removed

theorem ended_of_mem_set {workers : List Worker} {index : Nat} {after : Worker}
    (settled : ∀ task, .returning task ∈ workers → task.status.isTerminal = true)
    (ended : ∀ task, after = .returning task → task.status.isTerminal = true) :
    ∀ task, .returning task ∈ workers.set index after → task.status.isTerminal = true := by
  intro task hm
  rcases List.mem_or_eq_of_mem_set hm with hm | hm
  · exact settled task hm
  · exact ended task hm.symm

theorem Settled.returning_step (settled : s.Settled) (h : s.step? event = some s') :
    ∀ task, .returning task ∈ s'.workers → task.status.isTerminal = true := by
  cases event with
  | cancel key =>
    cases h
    intro task hm
    obtain ⟨worker, hw, he⟩ := List.mem_map.mp hm
    cases worker with
    | returning held =>
      have ht := settled.returning held hw
      simp only [Worker.signal, Worker.returning.injEq] at he
      rw [← he]
      split <;> exact ht
    | idle | ready | busy | spent | stopped => simp [Worker.signal] at he
  | start =>
    cases h
    intro task hm
    rcases List.mem_append.mp hm with hm | hm
    · exact settled.returning task hm
    · cases List.eq_of_mem_replicate hm
  | finish index task result =>
    obtain ⟨held, _, _, _, rfl⟩ := step_finish h
    refine ended_of_mem_set settled.returning ?_
    rintro _ ⟨⟩
    exact ended_isTerminal _ result
  | acknowledge index =>
    obtain ⟨_, _, rfl⟩ := step_acknowledge h
    exact settled.returning
  | acquire index =>
    obtain ⟨_, _, _, _, rfl⟩ := step_acquire h
    exact ended_of_mem_set settled.returning (by simp)
  | take index =>
    obtain ⟨_, _, _, _, _, rfl⟩ := step_take h
    exact ended_of_mem_set settled.returning (by simp)
  | putBack index =>
    obtain ⟨_, _, rfl⟩ := step_putBack h
    exact ended_of_mem_set settled.returning (by simp)
  | notify index =>
    obtain ⟨_, _, _, rfl⟩ := step_notify h
    exact ended_of_mem_set settled.returning (by simp)
  | release index =>
    obtain ⟨_, rfl⟩ := step_release h
    exact ended_of_mem_set settled.returning (by simp)
  | leave index =>
    obtain ⟨_, ⟨_, rfl⟩ | ⟨_, rfl⟩⟩ := step_leave h <;>
      exact ended_of_mem_set settled.returning (by simp)
  | submit _ | shutdown =>
    cases h
    exact settled.returning

theorem Settled.step (settled : s.Settled) (h : s.step? event = some s') : s'.Settled where
  removed := settled.removed_step h
  returning := settled.returning_step h
  reported := settled.reports_step h

theorem push_waiting_of_isTerminal (queue : Queue) {task : Task}
    (ended : task.status.isTerminal = true) :
    (queue.push task).entries.filter (·.status == .pending) =
      queue.entries.filter (·.status == .pending) := by
  have hs : (task.status == .pending) = false := by
    cases h : task.status <;> simp_all [Status.isTerminal]
  rw [push_entries, List.filter_append, List.filter_singleton, hs]
  exact List.append_nil _

/-- A transfer that begins takes its task out of those that wait for theirs, for good. -/
theorem step_waiting_count (settled : s.Settled) (h : s.step? event = some s') (id : TaskId) :
    (s.begins event).count id + s'.waiting.count id ≤
      s.waiting.count id + (event.submits.map (·.id)).count id := by
  cases event with
  | submit task =>
    cases h
    simp only [begins, waiting, Queue.push, Event.submits, List.filter_append, List.map_append,
      List.count_append, List.count_nil]
    have hl : ((([task].filter (·.status == .pending)).map (·.id)).count id ≤
      ([task].map (·.id)).count id) := (List.filter_sublist.map _).count_le id
    omega
  | cancel key =>
    -- Tasks that are taken out by a cancellation are never transferred, so that this is no equation.
    cases h
    have hl := ((List.filter_sublist (p := (!Queue.isMeant key ·)) (l := s.queue.entries)).filter
      (·.status == .pending)).map (·.id) |>.count_le id
    simpa [begins, waiting, cancel, Queue.cancel, Event.submits] using hl
  | take index =>
    obtain ⟨_, _, task, queue, hq, rfl⟩ := step_take h
    have he := Queue.entries_of_pop? hq
    by_cases hs : task.status = .pending
    · have hb : s.begins (.take index) = [task.id] := by simp [begins, he, hs]
      have hw : s.waiting = task.id :: (queue.entries.filter (·.status == .pending)).map (·.id) := by
        simp [waiting, he, hs]
      rw [hb, hw, ← List.count_append]
      exact Nat.le_add_right _ _
    · simp [begins, waiting, setWorker, he, hs]
  | putBack index =>
    -- A task comes back to the queue only when it has ended, so that it waits for no transfer again.
    obtain ⟨task, hw, rfl⟩ := step_putBack h
    have hp := push_waiting_of_isTerminal s.queue
      (settled.returning task (List.mem_of_getElem? hw))
    simp only [begins, waiting, setWorker, hp, Event.submits]
    simp
  | acknowledge index =>
    obtain ⟨_, _, rfl⟩ := step_acknowledge h
    simp [begins, waiting, report]
  | acquire index =>
    obtain ⟨_, _, _, _, rfl⟩ := step_acquire h
    simp [begins, waiting, setWorker]
  | finish index task result =>
    obtain ⟨_, _, _, _, rfl⟩ := step_finish h
    simp [begins, waiting, setWorker]
  | notify index =>
    obtain ⟨_, _, _, rfl⟩ := step_notify h
    simp [begins, waiting, setWorker, report]
  | release index =>
    obtain ⟨_, rfl⟩ := step_release h
    simp [begins, waiting, setWorker]
  | leave index =>
    obtain ⟨_, ⟨_, rfl⟩ | ⟨_, rfl⟩⟩ := step_leave h <;> simp [begins, waiting, setWorker]
  | start | shutdown =>
    cases h
    simp [begins, waiting]

end State

end Courier.Scheduler
