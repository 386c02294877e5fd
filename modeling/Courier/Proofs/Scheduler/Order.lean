import Courier.Proofs.Scheduler.Outcomes
import Courier.Proofs.Scheduler.Permits

/-! The order in which tasks pass the queue. Transfers begin in the order of the submissions, a worker
notifies a task only after its transfer, and with one slot the workers notify in that order too. -/
namespace Courier.Scheduler

/-- The task that a worker notifies by an event. -/
def State.delivers (s : State) : Event → List TaskId
  | .notify index => (s.workers[index]?.map Worker.taskIds).getD []
  | _ => []

namespace History

def delivered (past : History) : List TaskId :=
  past.flatMap fun (s, event) => s.delivers event

@[simp] theorem delivered_concat (past : History) (s : State) (event : Event) :
    delivered (past ++ [(s, event)]) = delivered past ++ s.delivers event := by
  simp [delivered]

/-- The tasks submitted so far, in order, but for those that cancellations have taken out of the queue. -/
def unwithdrawn (past : History) : List TaskId :=
  (past.submitted.map (·.id)).filter (· ∉ past.withdrawn)

theorem unwithdrawn_concat (past : History) (s : State) (event : Event) :
    unwithdrawn (past ++ [(s, event)]) =
      (unwithdrawn past ++ (event.submits.map (·.id)).filter (· ∉ past.withdrawn)).filter
        (· ∉ s.withdraws event) := by
  simp only [unwithdrawn, submitted_concat, withdrawn_concat, List.map_append, List.filter_append,
    List.filter_filter, List.mem_append, not_or, Bool.decide_and, Bool.and_comm]

end History

/-! ### Transfers begin in the order of the submissions -/

namespace State

variable {s s' : State} {event : Event}

/-- An event that is no cancellation leaves those that wait in their order; a submitted task is the last
of them, and the one whose transfer begins is the first. -/
theorem begins_waiting (settled : s.Settled) (h : s.step? event = some s')
    (other : ∀ key, event ≠ .cancel key) (fresh : ∀ task ∈ event.submits, task.status = .pending) :
    s.begins event ++ s'.waiting = s.waiting ++ event.submits.map (·.id) := by
  have same (queue : s'.queue = s.queue) (begins : s.begins event = [])
      (submits : event.submits = []) :
      s.begins event ++ s'.waiting = s.waiting ++ event.submits.map (·.id) := by
    rw [begins, submits, waiting, waiting, queue]
    exact (List.append_nil _).symm
  cases event with
  | cancel key => exact absurd rfl (other key)
  | submit task =>
    cases h
    have pending := fresh task (List.mem_singleton.mpr rfl)
    simp [begins, waiting, Event.submits, pending]
  | take index =>
    obtain ⟨-, -, task, queue, popped, rfl⟩ := step_take h
    have entries := Queue.entries_of_pop? popped
    by_cases pending : task.status = .pending <;>
      simp [begins, waiting, setWorker, Event.submits, entries, pending]
  | putBack index =>
    obtain ⟨task, had, rfl⟩ := step_putBack h
    have back := push_waiting_of_isTerminal s.queue
      (settled.returning task (List.mem_of_getElem? had))
    simp only [begins, waiting, setWorker, Event.submits, back, List.nil_append, List.map_nil,
      List.append_nil]
  | acknowledge index =>
    obtain ⟨_, _, rfl⟩ := step_acknowledge h
    exact same rfl rfl rfl
  | acquire index =>
    obtain ⟨_, _, _, _, rfl⟩ := step_acquire h
    exact same rfl rfl rfl
  | finish index task result =>
    obtain ⟨_, _, _, _, rfl⟩ := step_finish h
    exact same rfl rfl rfl
  | notify index =>
    obtain ⟨_, _, _, rfl⟩ := step_notify h
    exact same rfl rfl rfl
  | release index =>
    obtain ⟨_, rfl⟩ := step_release h
    exact same rfl rfl rfl
  | leave index =>
    obtain ⟨_, ⟨_, rfl⟩ | ⟨_, rfl⟩⟩ := step_leave h <;> exact same rfl rfl rfl
  | start | shutdown =>
    cases h
    exact same rfl rfl rfl

theorem waiting_cancel (s : State) (key : Key) (distinct : s.waiting.Nodup) :
    (s.cancel key).waiting = s.waiting.filter (· ∉ s.withdraws (.cancel key)) := by
  have swapped : (s.cancel key).queue.entries.filter (·.status == .pending) =
      (s.queue.entries.filter (·.status == .pending)).filter (!Queue.isMeant key ·) := by
    rw [List.filter_filter]
    simp only [cancel, Queue.cancel, List.filter_filter]
    exact List.filter_congr fun task _ => Bool.and_comm _ _
  rw [waiting, swapped, waiting, List.filter_map]
  refine congrArg _ (List.filter_congr fun task waits => ?_)
  -- A task that waits is taken out just if it is meant itself, as no other one has its id.
  have meant : task.id ∈ s.withdraws (.cancel key) ↔ Queue.isMeant key task = true := by
    simp only [withdraws, List.mem_map, List.mem_filter]
    constructor
    · rintro ⟨gone, ⟨queued, meant⟩, same⟩
      have pending : (gone.status == .pending) = true := (Bool.and_eq_true_iff.mp meant).1
      have here : gone ∈ s.queue.entries.filter (·.status == .pending) :=
        List.mem_filter.mpr ⟨queued, pending⟩
      rwa [List.inj_on_of_nodup_map distinct here waits same] at meant
    · intro meant
      exact ⟨task, ⟨(List.mem_filter.mp waits).1, meant⟩, rfl⟩
  rw [Function.comp_apply, decide_not, Bool.eq_iff_iff]
  simp [meant]

end State

/-- Those whose transfers have begun, followed by those that wait, are the submitted tasks that have not
been withdrawn, in their order. -/
theorem Run.begun_waiting {slots : Nat} {past : History} {s : State} (run : Run slots past s)
    (distinct : (past.submitted.map (·.id)).Nodup)
    (fresh : ∀ task ∈ past.submitted, task.status = .pending) :
    past.begun ++ s.waiting = past.unwithdrawn := by
  induction run with
  | init => rfl
  | @step past s s' event run happens ih =>
    rw [History.submitted_concat, List.map_append] at distinct
    rw [History.submitted_concat] at fresh
    obtain ⟨before, -, apart⟩ := List.nodup_append.mp distinct
    have ih := ih before fun task submitted => fresh task (List.mem_append_left _ submitted)
    have nodup : (past.begun ++ s.waiting).Nodup := ih ▸ before.filter _
    rw [History.begun_concat, History.unwithdrawn_concat, ← ih]
    by_cases cancels : ∃ key, event = .cancel key
    · obtain ⟨key, rfl⟩ := cancels
      obtain rfl : s.cancel key = s' := Option.some.inj happens
      have waits : ∀ id ∈ s.withdraws (.cancel key), id ∈ s.waiting := by
        intro id gone
        have count := s.cancel_waiting_count key id
        have here := List.count_pos_iff.mpr gone
        exact List.count_pos_iff.mp (by omega)
      have begun : past.begun.filter (· ∉ s.withdraws (.cancel key)) = past.begun := by
        refine List.filter_eq_self.mpr fun id begun => decide_eq_true fun gone => ?_
        exact (List.nodup_append.mp nodup).2.2 id begun id (waits id gone) rfl
      have left := s.waiting_cancel key (List.nodup_append.mp nodup).2.1
      rw [show s.begins (.cancel key) = [] from rfl, show (Event.cancel key).submits = [] from rfl,
        List.append_nil, List.map_nil, List.filter_nil, List.append_nil, List.filter_append, begun,
        left]
    · have other : ∀ key, event ≠ .cancel key := fun key same => cancels ⟨key, same⟩
      have gone : s.withdraws event = [] := by
        cases event with
        | cancel key => exact absurd rfl (other key)
        | _ => rfl
      have new : (event.submits.map (·.id)).filter (· ∉ past.withdrawn) =
          event.submits.map (·.id) := by
        refine List.filter_eq_self.mpr fun id new => decide_eq_true fun gone => ?_
        have counted := (run.counted id).once
        have here := List.count_pos_iff.mpr gone
        have old : id ∈ past.submitted.map (·.id) := List.count_pos_iff.mp (by omega)
        exact apart id old id new rfl
      have order := State.begins_waiting run.accounted.settled happens other fun task new =>
        fresh task (List.mem_append_right _ new)
      have all : ∀ ids : List TaskId, ids.filter (· ∉ s.withdraws event) = ids := fun ids =>
        List.filter_eq_self.mpr fun id _ => by simp [gone]
      rw [all, new, List.append_assoc, order, List.append_assoc]

/-! ### A notification by a worker comes after the transfer -/

/-- What a worker has has ended its transfer, unless the worker has it for just that. -/
def Worker.Through (past : History) : Worker → Prop
  | .busy task => task.status = .pending ∨ task.id ∈ past.finished
  | .returning task => task.id ∈ past.finished
  | _ => True

/-- Tasks in the queue or with a worker wait for their transfers or have them behind them. -/
structure Through (past : History) (s : State) : Prop where
  queued : ∀ task ∈ s.queue.entries, task.status = .pending ∨ task.id ∈ past.finished
  had : ∀ worker ∈ s.workers, worker.Through past

namespace Through

variable {past : History} {s s' : State} {event : Event}

theorem finished_mono (past : History) (s : State) (event : Event) {id : TaskId}
    (ended : id ∈ past.finished) : id ∈ History.finished (past ++ [(s, event)]) := by
  rw [History.finished_concat]
  exact List.mem_append_left _ ended

theorem worker_mono {worker : Worker} (through : worker.Through past) (s : State) (event : Event) :
    worker.Through (past ++ [(s, event)]) := by
  cases worker with
  | busy task => exact through.imp_right (finished_mono past s event)
  | returning task => exact finished_mono past s event through
  | idle | ready | spent | stopped => trivial

/-- A change of the queue and of one worker. -/
theorem set (through : Through past s) {index : Nat} {after : Worker}
    (queued : ∀ task ∈ s'.queue.entries, task ∈ s.queue.entries ∨ task.status = .pending ∨
      task.id ∈ past.finished)
    (workers : s'.workers = s.workers.set index after)
    (done : after.Through (past ++ [(s, event)])) : Through (past ++ [(s, event)]) s' where
  queued task here := by
    obtain old | pending | ended := queued task here
    · exact (through.queued task old).imp_right (finished_mono past s event)
    · exact Or.inl pending
    · exact Or.inr (finished_mono past s event ended)
  had worker here := by
    rw [workers] at here
    obtain old | rfl := List.mem_or_eq_of_mem_set here
    · exact worker_mono (through.had worker old) s event
    · exact done

theorem same (through : Through past s)
    (queued : ∀ task ∈ s'.queue.entries, task ∈ s.queue.entries ∨ task.status = .pending)
    (workers : ∀ worker ∈ s'.workers, worker ∈ s.workers ∨ worker = .idle) :
    Through (past ++ [(s, event)]) s' where
  queued task here := by
    obtain old | pending := queued task here
    · exact (through.queued task old).imp_right (finished_mono past s event)
    · exact Or.inl pending
  had worker here := by
    obtain old | rfl := workers worker here
    · exact worker_mono (through.had worker old) s event
    · trivial

theorem step (through : Through past s) (h : s.step? event = some s')
    (fresh : ∀ task ∈ event.submits, task.status = .pending) :
    Through (past ++ [(s, event)]) s' := by
  cases event with
  | submit task =>
    cases h
    refine through.same (fun old here => ?_) fun _ here => Or.inl here
    obtain old | new := List.mem_append.mp here
    · exact Or.inl old
    · exact Or.inr (fresh _ new)
  | cancel key =>
    cases h
    refine ⟨fun task here => ?_, fun worker here => ?_⟩
    · have queued := through.queued task (List.mem_filter.mp here).1
      exact queued.imp_right (finished_mono past s _)
    · obtain ⟨old, there, rfl⟩ := List.mem_map.mp here
      have done := worker_mono (through.had old there) s (.cancel key)
      cases old with
      | busy task | returning task =>
        simp only [State.Worker.signal]
        split <;> exact done
      | idle | ready | spent | stopped => trivial
  | take index =>
    obtain ⟨-, -, task, queue, popped, rfl⟩ := State.step_take h
    have entries := Queue.entries_of_pop? popped
    refine through.set (fun old here => Or.inl ?_) rfl ?_
    · rw [entries]
      exact List.mem_cons_of_mem _ here
    · have first : task ∈ s.queue.entries := entries ▸ List.mem_cons_self
      exact (through.queued task first).imp_right (finished_mono past s _)
  | finish index task result =>
    obtain ⟨held, -, -, -, rfl⟩ := State.step_finish h
    refine through.set (fun _ here => Or.inl here) rfl ?_
    simp only [Worker.Through, ended_id, History.finished_concat, Event.finishes]
    exact List.mem_append_right _ (List.mem_singleton.mpr rfl)
  | putBack index =>
    obtain ⟨task, had, rfl⟩ := State.step_putBack h
    have done : task.id ∈ past.finished := through.had _ (List.mem_of_getElem? had)
    refine through.set (fun old here => ?_) rfl trivial
    obtain old | new := List.mem_append.mp here
    · exact Or.inl old
    · rw [List.mem_singleton.mp new]
      exact Or.inr (Or.inr done)
  | notify index =>
    obtain ⟨_, _, _, rfl⟩ := State.step_notify h
    exact through.set (fun _ here => Or.inl here) rfl trivial
  | acquire index =>
    obtain ⟨_, _, _, _, rfl⟩ := State.step_acquire h
    exact through.set (fun _ here => Or.inl here) rfl trivial
  | release index =>
    obtain ⟨_, rfl⟩ := State.step_release h
    exact through.set (fun _ here => Or.inl here) rfl trivial
  | leave index =>
    obtain ⟨_, ⟨_, rfl⟩ | ⟨_, rfl⟩⟩ := State.step_leave h <;>
      exact through.set (fun _ here => Or.inl here) rfl trivial
  | acknowledge index =>
    obtain ⟨_, _, rfl⟩ := State.step_acknowledge h
    exact through.same (fun _ here => Or.inl here) fun _ here => Or.inl here
  | start =>
    cases h
    refine through.same (fun _ here => Or.inl here) fun worker here => ?_
    exact (List.mem_append.mp here).imp_right List.eq_of_mem_replicate
  | shutdown =>
    cases h
    exact through.same (fun _ here => Or.inl here) fun _ here => Or.inl here

end Through

theorem Run.through {slots : Nat} {past : History} {s : State} (run : Run slots past s)
    (fresh : ∀ task ∈ past.submitted, task.status = .pending) : Through past s := by
  induction run with
  | init => exact ⟨by simp [State.new, Queue.empty], by simp [State.new]⟩
  | step event run happens ih =>
    rw [History.submitted_concat] at fresh
    exact (ih fun task old => fresh task (List.mem_append_left _ old)).step happens fun task new =>
      fresh task (List.mem_append_right _ new)

theorem Run.happened {slots : Nat} {past : History} {s : State} (run : Run slots past s)
    {before after : History} {t : State} {event : Event} (past_eq : past = before ++ (t, event) :: after) :
    Run slots before t ∧ ∃ t', t.step? event = some t' := by
  induction run generalizing after with
  | init => simp at past_eq
  | @step past s s' last run happens ih =>
    rcases List.eq_nil_or_concat' after with rfl | ⟨earlier, final, rfl⟩
    · obtain ⟨rfl, same⟩ := List.append_inj' past_eq rfl
      obtain ⟨rfl, rfl⟩ := Prod.mk.inj (List.singleton_inj.mp same)
      exact ⟨run, s', happens⟩
    · rw [← List.cons_append, ← List.append_assoc] at past_eq
      exact ih (List.append_inj' past_eq rfl).1

/-! ### With one slot, notifications by workers come in the order of the submissions -/

/-- The task that a worker has for its notification, if any. -/
def Worker.telling : Worker → List TaskId
  | .busy task => if task.status = .pending then [] else [task.id]
  | _ => []

/-- The task that a worker transfers, or has just transferred, if any. -/
def Worker.underway : Worker → List TaskId
  | .busy task => if task.status = .pending then [task.id] else []
  | .returning task => [task.id]
  | _ => []

theorem signal_telling (signaled : List TaskId) (worker : Worker) :
    (State.Worker.signal signaled worker).telling = worker.telling := by
  cases worker with
  | busy task =>
    simp only [State.Worker.signal, Worker.telling]
    split <;> rfl
  | _ => rfl

theorem signal_underway (signaled : List TaskId) (worker : Worker) :
    (State.Worker.signal signaled worker).underway = worker.underway := by
  cases worker with
  | busy task | returning task =>
    simp only [State.Worker.signal, Worker.underway]
    split <;> rfl
  | _ => rfl

/-- If no worker has a permit but one, what it has is all that is had. -/
theorem flatMap_of_sole {has : Worker → List TaskId}
    (others : ∀ worker, worker.permits = 0 → has worker = []) {workers : List Worker} {index : Nat}
    {before : Worker} (had : workers[index]? = some before)
    (sole : (workers.map Worker.permits).sum ≤ before.permits) (after : Worker) :
    (workers.set index after).flatMap has = has after := by
  induction workers generalizing index with
  | nil => contradiction
  | cons worker rest ih =>
    rw [List.map_cons, List.sum_cons] at sole
    cases index with
    | zero =>
      obtain rfl : worker = before := Option.some.inj had
      have none : (rest.map Worker.permits).sum = 0 := by omega
      have nothing : rest.flatMap has = [] := by
        refine List.flatMap_eq_nil_iff.mpr fun other here => others other ?_
        exact List.sum_eq_zero_iff_forall_eq_nat.mp none _ (List.mem_map_of_mem here)
      rw [List.set_cons_zero, List.flatMap_cons, nothing, List.append_nil]
    | succ index =>
      have there : rest[index]? = some before := had
      have counted := permits_le_sum there
      have own : worker.permits = 0 ∧ (rest.map Worker.permits).sum ≤ before.permits := by omega
      rw [List.set_cons_succ, List.flatMap_cons, others worker own.1, ih there own.2, List.nil_append]

namespace State

variable {s s' : State} {event : Event}

/-- The tasks that have begun their transfers and that no worker has notified, in the order in which the
only worker will notify them: the one that it notifies, the ones that are queued for that, and the one
that it transfers. -/
def inLine (s : State) : List TaskId :=
  s.workers.flatMap Worker.telling ++
    ((s.queue.entries.filter (·.status != .pending)).map (·.id) ++ s.workers.flatMap Worker.underway)

theorem inLine_same (queue : s'.queue.entries.filter (·.status != .pending) =
      s.queue.entries.filter (·.status != .pending))
    (telling : s'.workers.flatMap Worker.telling = s.workers.flatMap Worker.telling)
    (underway : s'.workers.flatMap Worker.underway = s.workers.flatMap Worker.underway)
    (begins : s.begins event = []) (delivers : s.delivers event = []) :
    s.delivers event ++ s'.inLine = s.inLine ++ s.begins event := by
  rw [begins, delivers, inLine, inLine, queue, telling, underway]
  exact (List.append_nil _).symm

/-- The line, where only one worker can be in it. -/
theorem inLine_of_sole {index : Nat} {before : Worker} (had : s.workers[index]? = some before)
    (sole : (s.workers.map Worker.permits).sum ≤ before.permits) (after : Worker)
    (has : s'.workers = s.workers.set index after) :
    s'.inLine = after.telling ++
      ((s'.queue.entries.filter (·.status != .pending)).map (·.id) ++ after.underway) := by
  have telling : ∀ worker : Worker, worker.permits = 0 → worker.telling = [] := by
    intro worker none
    cases worker <;> first | rfl | contradiction
  have underway : ∀ worker : Worker, worker.permits = 0 → worker.underway = [] := by
    intro worker none
    cases worker <;> first | rfl | contradiction
  rw [inLine, has, flatMap_of_sole telling had sole, flatMap_of_sole underway had sole]

/-- With one permit, every event leaves the line as it is, or lets its first task out, or puts a task
behind its last one. -/
theorem delivers_inLine (settled : s.Settled) (one : (s.workers.map Worker.permits).sum ≤ 1)
    (h : s.step? event = some s') (fresh : ∀ task ∈ event.submits, task.status = .pending) :
    s.delivers event ++ s'.inLine = s.inLine ++ s.begins event := by
  have self {index : Nat} {worker : Worker} (had : s.workers[index]? = some worker) :
      s.workers = s.workers.set index worker := by
    obtain ⟨inside, rfl⟩ := List.getElem?_eq_some_iff.mp had
    exact (List.set_getElem_self inside).symm
  have calm {has : Worker → List TaskId} {index : Nat} {before after : Worker}
      (had : s.workers[index]? = some before) (same : has after = has before) :
      (s.workers.set index after).flatMap has = s.workers.flatMap has := by
    obtain ⟨inside, rfl⟩ := List.getElem?_eq_some_iff.mp had
    rw [List.flatMap_def, List.flatMap_def, List.map_set, same, ← List.map_set,
      List.set_getElem_self]
  cases event with
  | submit task =>
    cases h
    have pending := fresh task (List.mem_singleton.mpr rfl)
    refine inLine_same ?_ rfl rfl rfl rfl
    simp [pending]
  | cancel key =>
    cases h
    have kept (task : Task) (ended : (task.status != .pending) = true) :
        (!Queue.isMeant key task) = true := by
      simp_all [Queue.isMeant]
    refine inLine_same ?_ ?_ ?_ rfl rfl
    · simp only [cancel, Queue.cancel, List.filter_filter]
      refine List.filter_congr fun task _ => ?_
      cases ended : task.status != .pending with
      | false => rfl
      | true => rw [Bool.true_and, kept task ended]
    · simp only [cancel, List.flatMap_map, signal_telling]
    · simp only [cancel, List.flatMap_map, signal_underway]
  | take index =>
    obtain ⟨had, -, task, queue, popped, rfl⟩ := step_take h
    have entries := Queue.entries_of_pop? popped
    rw [inLine_of_sole had one _ (self had), inLine_of_sole had one (.busy task) rfl]
    by_cases pending : task.status = .pending <;>
      simp [delivers, begins, setWorker, Worker.telling, Worker.underway, entries, pending]
  | finish index task result =>
    obtain ⟨held, had, pending, same, rfl⟩ := step_finish h
    rw [inLine_of_sole had one _ (self had), inLine_of_sole had one (.returning _) rfl]
    simp [delivers, begins, setWorker, Worker.telling, Worker.underway, pending, same, ended_id]
  | putBack index =>
    obtain ⟨task, had, rfl⟩ := step_putBack h
    have ended := settled.returning task (List.mem_of_getElem? had)
    have done : task.status ≠ .pending := by
      intro pending
      rw [pending] at ended
      contradiction
    rw [inLine_of_sole had one _ (self had), inLine_of_sole had one .spent rfl]
    simp [delivers, begins, setWorker, Worker.telling, Worker.underway, done]
  | notify index =>
    obtain ⟨task, had, ended, rfl⟩ := step_notify h
    have done : task.status ≠ .pending := by
      intro pending
      rw [pending] at ended
      contradiction
    rw [inLine_of_sole had one _ (self had), inLine_of_sole had one .spent rfl]
    simp [delivers, begins, setWorker, report, Worker.telling, Worker.underway, Worker.taskIds, had,
      done]
  | acquire index =>
    obtain ⟨had, _, _, _, rfl⟩ := step_acquire h
    exact inLine_same rfl (calm had rfl) (calm had rfl) rfl rfl
  | release index =>
    obtain ⟨had, rfl⟩ := step_release h
    exact inLine_same rfl (calm had rfl) (calm had rfl) rfl rfl
  | leave index =>
    obtain ⟨_, ⟨had, rfl⟩ | ⟨had, rfl⟩⟩ := step_leave h <;>
      exact inLine_same rfl (calm had rfl) (calm had rfl) rfl rfl
  | acknowledge index =>
    obtain ⟨_, _, rfl⟩ := step_acknowledge h
    exact inLine_same rfl rfl rfl rfl rfl
  | start =>
    cases h
    refine inLine_same rfl ?_ ?_ rfl rfl <;> simp [Worker.telling, Worker.underway]
  | shutdown =>
    cases h
    exact inLine_same rfl rfl rfl rfl rfl

end State

/-- With one slot, those who have been notified by workers, followed by those who will be, are those
whose transfers have begun, in their order. -/
theorem Run.delivered_inLine {slots : Nat} {past : History} {s : State} (run : Run slots past s)
    (one : slots ≤ 1) (fresh : ∀ task ∈ past.submitted, task.status = .pending) :
    past.delivered ++ s.inLine = past.begun := by
  induction run with
  | init => rfl
  | @step past s s' event run happens ih =>
    rw [History.submitted_concat] at fresh
    have permitted := run.permitted
    have bounded := permitted.bounded
    rw [permitted.slots, permitted.held] at bounded
    have sole : (s.workers.map Worker.permits).sum ≤ 1 := by omega
    have order := State.delivers_inLine run.accounted.settled sole happens fun task new =>
      fresh task (List.mem_append_right _ new)
    calc
      History.delivered (past ++ [(s, event)]) ++ s'.inLine
        = past.delivered ++ (s.delivers event ++ s'.inLine) := by
          rw [History.delivered_concat, List.append_assoc]
      _ = (past.delivered ++ s.inLine) ++ s.begins event := by rw [order, List.append_assoc]
      _ = past.begun ++ s.begins event := by
          rw [ih fun task old => fresh task (List.mem_append_left _ old)]
      _ = History.begun (past ++ [(s, event)]) := (History.begun_concat past s event).symm

/-- What a worker notifies has been transferred before, once. -/
theorem Run.transferred_once {slots : Nat} {past : History} {s : State} (run : Run slots past s)
    (distinct : (past.submitted.map (·.id)).Nodup)
    (fresh : ∀ task ∈ past.submitted, task.status = .pending) {index : Nat} {task : Task}
    (had : s.workers[index]? = some (.busy task)) (ended : task.status.isTerminal = true) :
    past.begun.count task.id = 1 ∧ past.finished.count task.id = 1 := by
  have finished : task.id ∈ past.finished := by
    obtain pending | finished := (run.through fresh).had _ (List.mem_of_getElem? had)
    · rw [pending] at ended
      contradiction
    · exact finished
  have given := List.nodup_iff_count_le_one.mp distinct task.id
  have once := (run.counted task.id).once
  have ends := (run.counted task.id).ends
  have some_end := List.count_pos_iff.mpr finished
  exact ⟨by omega, by omega⟩

/-- What starts a list of distinct elements, with some of them left out, has those that come before each
of its own. -/
theorem pair_sublist {ids before after : List TaskId} {keep : TaskId → Bool} {first id : TaskId}
    (starts : ids <+: (before ++ id :: after).filter keep) (distinct : (before ++ id :: after).Nodup)
    (here : id ∈ ids) (earlier : first ∈ before) (kept : keep first = true) :
    [first, id].Sublist ids := by
  have own : keep id = true := (List.mem_filter.mp (starts.subset here)).2
  have alone : id ∉ before.filter keep := fun twice =>
    (List.nodup_append.mp distinct).2.2 _ (List.mem_filter.mp twice).1 _ List.mem_cons_self rfl
  rw [List.filter_append, List.filter_cons_of_pos own] at starts
  have whole : before.filter keep ++ [id] <+: before.filter keep ++ id :: after.filter keep := by
    rw [List.prefix_append_right_inj]
    exact ⟨after.filter keep, rfl⟩
  have upTo : before.filter keep ++ [id] <+: ids := by
    obtain longer | shorter := List.prefix_or_prefix_of_prefix whole starts
    · exact longer
    · obtain same | less := List.prefix_concat_iff.mp shorter
      · exact same ▸ List.prefix_refl _
      · exact absurd (less.subset here) alone
  have there : first ∈ before.filter keep := List.mem_filter.mpr ⟨earlier, kept⟩
  have both := (List.singleton_sublist.mpr there).append (List.Sublist.refl [id])
  exact both.trans upTo.sublist

/-- Tasks pass the queue in order, whatever the workers do in between and whichever tasks are canceled.
Transfers begin in the order in which their tasks were submitted, but for the tasks that cancellations
took out of the queue. A worker notifies a task after its one transfer has ended. With one slot, and
however many workers, the workers also notify in the order of the submissions: if they have notified some
task, they have notified every task submitted before it earlier, unless a cancellation took it out. -/
theorem tasks_pass_in_order {slots : Nat} {past : History} {s : State} (run : Run slots past s)
    (distinct : (past.submitted.map (·.id)).Nodup)
    (fresh : ∀ task ∈ past.submitted, task.status = .pending) :
    past.begun ++ s.waiting = (past.submitted.map (·.id)).filter (· ∉ past.withdrawn) ∧
      (∀ (before after : History) t index, past = before ++ (t, .notify index) :: after →
        ∃ task, t.workers[index]? = some (.busy task) ∧
          before.begun.count task.id = 1 ∧ before.finished.count task.id = 1) ∧
      (slots ≤ 1 →
        past.delivered <+: (past.submitted.map (·.id)).filter (· ∉ past.withdrawn) ∧
        ∀ earlier task later, past.submitted = earlier ++ task :: later → task.id ∈ past.delivered →
          ∀ other ∈ earlier, other.id ∈ past.withdrawn ∨
            [other.id, task.id].Sublist past.delivered) := by
  have order := run.begun_waiting distinct fresh
  refine ⟨order, ?_, fun one => ?_⟩
  · rintro before after t index rfl
    obtain ⟨run, t', happens⟩ := run.happened rfl
    obtain ⟨task, had, ended, -⟩ := State.step_notify happens
    have submitted : History.submitted (before ++ (t, .notify index) :: after) =
        before.submitted ++ History.submitted ((t, .notify index) :: after) := by
      simp only [History.submitted, List.flatMap_append]
    rw [submitted] at fresh distinct
    rw [List.map_append] at distinct
    exact ⟨task, had, run.transferred_once (List.nodup_append.mp distinct).1
      (fun task old => fresh task (List.mem_append_left _ old)) had ended⟩
  · have starts : past.delivered <+: past.unwithdrawn := by
      rw [← order, ← run.delivered_inLine one fresh, List.append_assoc]
      exact List.prefix_append _ _
    refine ⟨starts, fun earlier task later submitted told other before => ?_⟩
    by_cases gone : other.id ∈ past.withdrawn
    · exact Or.inl gone
    · unfold History.unwithdrawn at starts
      rw [submitted, List.map_append, List.map_cons] at distinct starts
      exact Or.inr (pair_sublist starts distinct told (List.mem_map_of_mem before)
        (decide_eq_true gone))

/-- One slot and two workers: of three tasks, the second is canceled in the queue. -/
theorem tasks_pass_in_order_of_three : ∃ past s, Run 1 past s ∧
    past.submitted = [twin 1, .new 2 (.message ⟨"doc", 1, "b.bin"⟩ 5 8) "mem" 1 "", twin 3] ∧
    (past.submitted.map (·.id)).Nodup ∧ (∀ task ∈ past.submitted, task.status = .pending) ∧
    past.withdrawn = [2] ∧ past.delivered = [1, 3] ∧ past.delivered <+: [1, 3] ∧
    [(twin 1).id, (twin 3).id].Sublist past.delivered := by
  have run := (Run.init : Run 1 [] (.new 1))
    |>.step .start rfl
    |>.step .start rfl
    |>.step (.submit (twin 1)) rfl
    |>.step (.submit (.new 2 (.message ⟨"doc", 1, "b.bin"⟩ 5 8) "mem" 1 "")) rfl
    |>.step (.acquire 0) rfl
    |>.step (.take 0) rfl
    |>.step (.submit (twin 3)) rfl
    |>.step (.cancel (.ofMessage 5 8)) rfl
    |>.step (.finish 0 (twin 1) (.ok ())) rfl
    |>.step (.putBack 0) rfl
    |>.step (.release 0) rfl
    |>.step (.acquire 1) rfl
    |>.step (.take 1) rfl
    |>.step (.finish 1 (twin 3) (.ok ())) rfl
    |>.step (.putBack 1) rfl
    |>.step (.release 1) rfl
    |>.step (.acquire 0) rfl
    |>.step (.take 0) rfl
    |>.step (.notify 0) rfl
    |>.step (.release 0) rfl
    |>.step (.acquire 0) rfl
    |>.step (.take 0) rfl
    |>.step (.notify 0) rfl
  have distinct : ([twin 1, .new 2 (.message ⟨"doc", 1, "b.bin"⟩ 5 8) "mem" 1 "", twin 3].map
      (·.id)).Nodup := by decide
  have fresh : ∀ task ∈ [twin 1, .new 2 (.message ⟨"doc", 1, "b.bin"⟩ 5 8) "mem" 1 "", twin 3],
      task.status = .pending := by simp [twin, Task.new]
  obtain ⟨-, -, order⟩ := tasks_pass_in_order run distinct fresh
  obtain ⟨starts, pairs⟩ := order (Nat.le_refl 1)
  have pair := pairs [twin 1, _] (twin 3) [] rfl (by decide) (twin 1) List.mem_cons_self
  exact ⟨_, _, run, rfl, distinct, fresh, rfl, rfl, starts, pair.resolve_left (by decide)⟩

end Courier.Scheduler
