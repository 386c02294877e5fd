import Courier.Proofs.Scheduler.Outcomes

/-! Transfers under way. As long as nobody cancels anything, a worker that transfers a task has it as it was
submitted until the transfer ends, and no other worker has it. -/
namespace Courier.Scheduler

/-- Events that are no cancellation, and neither begin nor end a transfer. -/
def Event.isCalm : Event → Bool
  | .cancel _ | .take _ | .finish .. => false
  | _ => true

namespace State

variable {s s' : State} {event : Event} {index : Nat} {held task : Task}

/-- A worker at a transfer is still at it after what another worker has done. -/
theorem busy_set {workers : List Worker} {other : Nat} {before : Worker} (after : Worker)
    (busy : workers[index]? = some (.busy held)) (had : workers[other]? = some before)
    (ne : before ≠ .busy held) : (workers.set other after)[index]? = some (.busy held) := by
  have apart : other ≠ index := by
    rintro rfl
    exact ne (Option.some.inj (had.symm.trans busy))
  rw [List.getElem?_set_ne apart]
  exact busy

theorem busy_step (calm : event.isCalm = true) (h : s.step? event = some s')
    (busy : s.workers[index]? = some (.busy held)) (pending : held.status = .pending) :
    s'.workers[index]? = some (.busy held) := by
  cases event with
  | cancel | take | finish => contradiction
  | acquire other =>
    obtain ⟨had, -, _, -, rfl⟩ := step_acquire h
    exact busy_set .ready busy had (by simp)
  | putBack other =>
    obtain ⟨back, had, rfl⟩ := step_putBack h
    exact busy_set .spent busy had (by simp)
  | notify other =>
    obtain ⟨told, had, terminal, rfl⟩ := step_notify h
    refine busy_set .spent busy had ?_
    rintro ⟨⟩
    rw [pending] at terminal
    contradiction
  | release other =>
    obtain ⟨had, rfl⟩ := step_release h
    exact busy_set .idle busy had (by simp)
  | leave other =>
    obtain ⟨-, ⟨had, rfl⟩ | ⟨had, rfl⟩⟩ := step_leave h <;>
      exact busy_set .stopped busy had (by simp)
  | start =>
    cases h
    have inside : index < s.workers.length := (List.getElem?_eq_some_iff.mp busy).1
    exact (List.getElem?_append_left inside).trans busy
  | acknowledge other =>
    obtain ⟨_, -, rfl⟩ := step_acknowledge h
    exact busy
  | submit | shutdown =>
    cases h
    exact busy

theorem waits_step (settled : s.Settled) (h : s.step? event = some s')
    (queued : task ∈ s'.queue.entries) (pending : task.status = .pending) :
    task ∈ s.queue.entries ∨ task ∈ event.submits := by
  cases event with
  | submit new =>
    cases h
    exact List.mem_append.mp queued
  | cancel key =>
    cases h
    exact Or.inl (List.mem_filter.mp queued).1
  | take other =>
    obtain ⟨-, -, first, queue, popped, rfl⟩ := step_take h
    rw [Queue.entries_of_pop? popped]
    exact Or.inl (List.mem_cons_of_mem _ queued)
  | putBack other =>
    obtain ⟨back, had, rfl⟩ := step_putBack h
    obtain old | rfl := List.mem_append.mp queued |>.imp_right List.mem_singleton.mp
    · exact Or.inl old
    · -- What comes back to the queue has ended.
      have terminal := settled.returning _ (List.mem_of_getElem? had)
      rw [pending] at terminal
      contradiction
  | acknowledge other =>
    obtain ⟨_, -, rfl⟩ := step_acknowledge h
    exact Or.inl queued
  | acquire other =>
    obtain ⟨-, -, _, -, rfl⟩ := step_acquire h
    exact Or.inl queued
  | finish other left result =>
    obtain ⟨_, -, -, -, rfl⟩ := step_finish h
    exact Or.inl queued
  | notify other =>
    obtain ⟨_, -, -, rfl⟩ := step_notify h
    exact Or.inl queued
  | release other =>
    obtain ⟨-, rfl⟩ := step_release h
    exact Or.inl queued
  | leave other =>
    obtain ⟨-, ⟨-, rfl⟩ | ⟨-, rfl⟩⟩ := step_leave h <;> exact Or.inl queued
  | start | shutdown =>
    cases h
    exact Or.inl queued

theorem transferring_pos (busy : s.workers[index]? = some (.busy held))
    (pending : held.status = .pending) : 0 < s.transferring.count held.id := by
  refine List.count_pos_iff.mpr (List.mem_flatMap.mpr ⟨_, List.mem_of_getElem? busy, ?_⟩)
  rw [Worker.transferred, if_pos pending]
  exact List.mem_singleton.mpr rfl

end State

section Run

variable {slots : Nat} {past : History} {s : State} {index other : Nat} {held task : Task}

variable (run : Run slots past s) (distinct : (past.submitted.map (·.id)).Nodup)
include run distinct

/-- A task begins its transfer once at most, and from then on it is at it or has ended it. -/
theorem Run.transfers_once (id : TaskId) : past.begun.count id + s.waiting.count id ≤ 1 ∧
    past.finished.count id + s.transferring.count id = past.begun.count id := by
  have once := (run.counted id).once
  have given := List.nodup_iff_count_le_one.mp distinct id
  exact ⟨by omega, (run.counted id).ends⟩

theorem Run.underway (busy : s.workers[index]? = some (.busy held))
    (pending : held.status = .pending) : held.id ∈ past.begun ∧ held.id ∉ past.finished := by
  obtain ⟨once, ends⟩ := run.transfers_once distinct held.id
  have here := State.transferring_pos busy pending
  rw [← List.count_pos_iff, ← List.count_eq_zero]
  omega

theorem Run.busy_unique (busy : s.workers[index]? = some (.busy held))
    (pending : held.status = .pending) (busy' : s.workers[other]? = some (.busy task))
    (pending' : task.status = .pending) (same : held.id = task.id) : index = other := by
  by_contra apart
  obtain ⟨once, ends⟩ := run.transfers_once distinct held.id
  let rest : State := { s with workers := s.workers.set index .spent }
  have still : rest.workers[other]? = some (.busy task) :=
    (List.getElem?_set_ne apart).trans busy'
  have more := State.transferring_pos still pending'
  have without : rest.workers = s.workers.set index .spent := rfl
  have split := State.transferring_count .spent busy without held.id
  simp only [Worker.transferred, if_pos pending, List.count_nil, List.count_singleton_self] at split
  rw [← same] at more
  omega

theorem Run.unbegun (queued : task ∈ s.queue.entries) (pending : task.status = .pending) :
    task.id ∉ past.begun := by
  obtain ⟨once, -⟩ := run.transfers_once distinct task.id
  have here : task.id ∈ s.waiting :=
    List.mem_map_of_mem (List.mem_filter.mpr ⟨queued, by simp [pending]⟩)
  rw [← List.count_pos_iff] at here
  rw [← List.count_eq_zero]
  omega

end Run

end Courier.Scheduler
