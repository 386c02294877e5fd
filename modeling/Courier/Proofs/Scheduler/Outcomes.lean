import Courier.Proofs.Scheduler.Notification

/-! How tasks end. A task in any place is as it was submitted, or it has been taken out of the queue by
a cancellation, or its transfer has ended; a notification says the same of it. A cancellation of a
task that has ended only leaves its mark. -/
namespace Courier.Scheduler

/-- The tasks that an event takes out of the queue for good. -/
def State.withdraws (s : State) : Event → List TaskId
  | .cancel key => (s.queue.entries.filter (Queue.isMeant key)).map (·.id)
  | _ => []

/-- The task whose transfer an event ends. -/
def Event.finishes : Event → List TaskId
  | .finish _ task _ => [task.id]
  | _ => []

namespace History

/-- The tasks that cancellations have taken out of the queue so far, in order. -/
def withdrawn (past : History) : List TaskId :=
  past.flatMap fun (s, event) => s.withdraws event

def finished (past : History) : List TaskId :=
  past.flatMap fun (_, event) => event.finishes

@[simp] theorem withdrawn_concat (past : History) (s : State) (event : Event) :
    withdrawn (past ++ [(s, event)]) = withdrawn past ++ s.withdraws event := by
  simp [withdrawn]

@[simp] theorem finished_concat (past : History) (s : State) (event : Event) :
    finished (past ++ [(s, event)]) = finished past ++ event.finishes := by
  simp [finished]

end History

/-- A task with or without the mark of a cancellation. -/
def marked (task : Task) (canceled : Bool) : Task :=
  { task with canceled }

/-- What a task in some place has come to. -/
inductive Fate (past : History) : Task → Prop where
  /-- Nothing yet. -/
  | waits {sub : Task} (canceled : Bool) (submitted : sub ∈ past.submitted) :
      Fate past (marked sub canceled)
  | withdrawn {sub : Task} (canceled : Bool) (submitted : sub ∈ past.submitted)
      (gone : sub.id ∈ past.withdrawn) : Fate past { marked sub canceled with status := .canceled }
  | ended {s : State} {index : Nat} {left held : Task} {result : Except TransferError Unit}
      {sub : Task} (canceled : Bool) (happened : (s, .finish index left result) ∈ past)
      (had : s.workers[index]? = some (.busy held)) (same : held.id = left.id)
      (submitted : sub ∈ past.submitted) (kept : held = marked sub held.canceled) :
      Fate past (marked (State.ended (marked left (held.canceled || left.canceled)) result) canceled)

def Worker.tasks : Worker → List Task
  | .busy task | .returning task => [task]
  | _ => []

/-- The tasks in all places where they have not been notified. -/
def State.tasks (s : State) : List Task :=
  s.queue.entries ++ s.workers.flatMap Worker.tasks ++ s.removed

theorem mem_tasks {s : State} {task : Task} : task ∈ s.tasks ↔
    task ∈ s.queue.entries ∨ (∃ worker ∈ s.workers, task ∈ worker.tasks) ∨ task ∈ s.removed := by
  simp [State.tasks]

/-- How an event brings a task to where it is. -/
inductive Comes (s : State) (event : Event) : Task → Prop where
  | kept {old : Task} (canceled : Bool) (was : old ∈ s.tasks) : Comes s event (marked old canceled)
  | submitted {task : Task} (new : task ∈ event.submits) : Comes s event task
  | withdrawn {old : Task} (was : old ∈ s.tasks) (pending : old.status = .pending)
      (gone : old.id ∈ s.withdraws event) :
      Comes s event { marked old true with status := .canceled }
  | ended {index : Nat} {left held : Task} {result : Except TransferError Unit}
      (happened : event = .finish index left result) (had : s.workers[index]? = some (.busy held))
      (pending : held.status = .pending) (same : held.id = left.id) :
      Comes s event (State.ended (marked left (held.canceled || left.canceled)) result)

namespace State

variable {s s' : State} {event : Event} {task : Task}

theorem comes_of_mem (was : task ∈ s.tasks) : Comes s event task :=
  .kept task.canceled was

theorem mem_tasks_setWorker {index : Nat} {after : Worker}
    (h : task ∈ (s.setWorker index after).tasks) : task ∈ s.tasks ∨ task ∈ after.tasks := by
  rw [mem_tasks] at h ⊢
  rcases h with queued | ⟨worker, hw, ht⟩ | removed
  · exact Or.inl (Or.inl queued)
  · rcases List.mem_or_eq_of_mem_set hw with hw | rfl
    · exact Or.inl (Or.inr (Or.inl ⟨worker, hw, ht⟩))
    · exact Or.inr ht
  · exact Or.inl (Or.inr (Or.inr removed))

theorem mem_tasks_of_worker {index : Nat} {worker : Worker} (hw : s.workers[index]? = some worker)
    (ht : task ∈ worker.tasks) : task ∈ s.tasks :=
  mem_tasks.mpr (Or.inr (Or.inl ⟨worker, List.mem_of_getElem? hw, ht⟩))

theorem cancel_comes (key : Key) (h : task ∈ (s.cancel key).tasks) :
    Comes s (.cancel key) task := by
  rcases mem_tasks.mp h with queued | ⟨worker, hw, ht⟩ | removed
  · exact comes_of_mem (mem_tasks.mpr (Or.inl (List.mem_filter.mp queued).1))
  · obtain ⟨old, ho, rfl⟩ := List.mem_map.mp hw
    have held : ∀ had ∈ old.tasks, had ∈ s.tasks := fun had hm =>
      mem_tasks.mpr (Or.inr (Or.inl ⟨old, ho, hm⟩))
    -- A worker's task only gets the mark, and only if it is among the ones that are to be told.
    cases old with
    | busy had | returning had =>
      have was := held had (List.mem_singleton.mpr rfl)
      rw [List.mem_singleton.mp ht]
      split
      · exact .kept true was
      · exact comes_of_mem was
    | idle | ready | spent | stopped => cases ht
  · rcases List.mem_append.mp removed with removed | removed
    · exact comes_of_mem (mem_tasks.mpr (Or.inr (Or.inr removed)))
    · obtain ⟨old, ho, rfl⟩ := List.mem_map.mp removed
      obtain ⟨queued, meant⟩ := List.mem_filter.mp ho
      have pending : old.status = .pending := by
        simp only [Queue.isMeant, Bool.and_eq_true, beq_iff_eq] at meant
        exact meant.1
      exact .withdrawn (mem_tasks.mpr (Or.inl queued)) pending (List.mem_map.mpr ⟨old, ho, rfl⟩)

theorem step_comes (h : s.step? event = some s') (ht : task ∈ s'.tasks) : Comes s event task := by
  -- Most events change one worker, to one that has no task or one that was in some place before.
  have set {m : State} {index : Nat} {after : Worker} (same : ∀ old ∈ m.tasks, old ∈ s.tasks)
      (had : ∀ old ∈ after.tasks, old ∈ s.tasks) (ht : task ∈ (m.setWorker index after).tasks) :
      Comes s event task :=
    comes_of_mem ((mem_tasks_setWorker ht).elim (same task) (had task))
  cases event with
  | submit new =>
    cases h
    rcases mem_tasks.mp ht with queued | held | removed
    · rcases List.mem_append.mp queued with queued | new
      · exact comes_of_mem (mem_tasks.mpr (Or.inl queued))
      · exact .submitted new
    · exact comes_of_mem (mem_tasks.mpr (Or.inr (Or.inl held)))
    · exact comes_of_mem (mem_tasks.mpr (Or.inr (Or.inr removed)))
  | cancel key =>
    cases h
    exact cancel_comes key ht
  | acknowledge index =>
    obtain ⟨_, _, rfl⟩ := step_acknowledge h
    rcases mem_tasks.mp ht with queued | held | removed
    · exact comes_of_mem (mem_tasks.mpr (Or.inl queued))
    · exact comes_of_mem (mem_tasks.mpr (Or.inr (Or.inl held)))
    · exact comes_of_mem (mem_tasks.mpr (Or.inr (Or.inr (List.mem_of_mem_eraseIdx removed))))
  | start =>
    cases h
    rcases mem_tasks.mp ht with queued | ⟨worker, hw, held⟩ | removed
    · exact comes_of_mem (mem_tasks.mpr (Or.inl queued))
    · rcases List.mem_append.mp hw with hw | hw
      · exact comes_of_mem (mem_tasks.mpr (Or.inr (Or.inl ⟨worker, hw, held⟩)))
      · rw [List.eq_of_mem_replicate hw] at held
        cases held
    · exact comes_of_mem (mem_tasks.mpr (Or.inr (Or.inr removed)))
  | acquire index =>
    obtain ⟨_, _, _, _, rfl⟩ := step_acquire h
    exact set (fun _ h => h) (fun _ h => by cases h) ht
  | take index =>
    obtain ⟨_, _, first, queue, hq, rfl⟩ := step_take h
    have queued : ∀ old ∈ first :: queue.entries, old ∈ s.tasks := fun old hm =>
      mem_tasks.mpr (Or.inl (Queue.entries_of_pop? hq ▸ hm))
    refine set (fun old hm => ?_) (fun old hm => ?_) ht
    · rcases mem_tasks.mp hm with hm | held | removed
      · exact queued old (List.mem_cons_of_mem _ hm)
      · exact mem_tasks.mpr (Or.inr (Or.inl held))
      · exact mem_tasks.mpr (Or.inr (Or.inr removed))
    · rw [List.mem_singleton.mp hm]
      exact queued first List.mem_cons_self
  | finish index left result =>
    obtain ⟨held, hw, pending, same, rfl⟩ := step_finish h
    rcases mem_tasks_setWorker ht with was | ended
    · exact comes_of_mem was
    · rw [List.mem_singleton.mp ended]
      exact .ended rfl hw pending same
  | putBack index =>
    obtain ⟨back, hw, rfl⟩ := step_putBack h
    refine set (fun old hm => ?_) (fun _ h => by cases h) ht
    rcases mem_tasks.mp hm with hm | held | removed
    · rcases List.mem_append.mp hm with queued | hm
      · exact mem_tasks.mpr (Or.inl queued)
      · rw [List.mem_singleton.mp hm]
        exact mem_tasks_of_worker hw (List.mem_singleton.mpr rfl)
    · exact mem_tasks.mpr (Or.inr (Or.inl held))
    · exact mem_tasks.mpr (Or.inr (Or.inr removed))
  | notify index =>
    obtain ⟨_, _, _, rfl⟩ := step_notify h
    exact set (fun _ h => h) (fun _ h => by cases h) ht
  | release index =>
    obtain ⟨_, rfl⟩ := step_release h
    exact set (fun _ h => h) (fun _ h => by cases h) ht
  | leave index =>
    obtain ⟨_, ⟨_, rfl⟩ | ⟨_, rfl⟩⟩ := step_leave h <;>
      exact set (fun _ h => h) (fun _ h => by cases h) ht
  | shutdown =>
    cases h
    exact comes_of_mem ht

end State

namespace Fate

variable {past : History} {s s' : State} {event : Event} {task : Task}

theorem mark (fate : Fate past task) (canceled : Bool) : Fate past (marked task canceled) := by
  -- Of two marks the later one stays, so that each constructor is used with the new one.
  cases fate with
  | waits _ submitted =>
    have fate := waits canceled submitted
    exact fate
  | withdrawn _ submitted gone =>
    have fate := withdrawn canceled submitted gone
    exact fate
  | ended _ happened had same submitted kept =>
    have fate := ended canceled happened had same submitted kept
    exact fate

theorem concat (fate : Fate past task) (s : State) (event : Event) :
    Fate (past ++ [(s, event)]) task := by
  have more {sub : Task} (h : sub ∈ past.submitted) :
      sub ∈ History.submitted (past ++ [(s, event)]) := by
    rw [History.submitted_concat]
    exact List.mem_append_left _ h
  cases fate with
  | waits canceled submitted => exact .waits canceled (more submitted)
  | withdrawn canceled submitted gone =>
    refine .withdrawn canceled (more submitted) ?_
    rw [History.withdrawn_concat]
    exact List.mem_append_left _ gone
  | ended canceled happened had same submitted kept =>
    exact .ended canceled (List.mem_append_left _ happened) had same (more submitted) kept

/-- A task that is pending still is as it was submitted, but for the mark of a cancellation. -/
theorem submitted_of_pending (fate : Fate past task) (pending : task.status = .pending) :
    ∃ sub ∈ past.submitted, task = marked sub task.canceled := by
  cases fate with
  | @waits sub canceled submitted => exact ⟨sub, submitted, rfl⟩
  | withdrawn => contradiction
  | @ended _ _ left held result =>
    have ended := ended_isTerminal (marked left (held.canceled || left.canceled)) result
    rw [show (State.ended _ result).status = .pending from pending] at ended
    contradiction

theorem of_comes (fates : ∀ task ∈ s.tasks, Fate past task) (comes : Comes s event task) :
    Fate (past ++ [(s, event)]) task := by
  cases comes with
  | kept canceled was => exact ((fates _ was).mark canceled).concat s event
  | submitted new =>
    refine .waits task.canceled ?_
    rw [History.submitted_concat]
    exact List.mem_append_right _ new
  | withdrawn was pending gone =>
    obtain ⟨sub, submitted, kept⟩ := ((fates _ was).concat s event).submitted_of_pending pending
    rw [kept] at gone ⊢
    have fate := withdrawn true submitted
      (by rw [History.withdrawn_concat]; exact List.mem_append_right _ gone)
    exact fate
  | ended happened had pending same =>
    obtain ⟨sub, submitted, kept⟩ :=
      ((fates _ (State.mem_tasks_of_worker had (List.mem_singleton.mpr rfl))).concat s
        event).submitted_of_pending pending
    exact .ended _ (happened ▸ List.mem_append_right _ List.mem_cons_self) had same submitted kept

end Fate

/-- What a notification says has come to the task as it was when it was notified. -/
def Tells (past : History) (report : Report) : Prop :=
  ∃ task, Fate past task ∧ report = ⟨task.summary, task.status, task.error⟩

structure Fated (past : History) (s : State) : Prop where
  tasks : ∀ task ∈ s.tasks, Fate past task
  reports : ∀ report ∈ s.reports, Tells past report

theorem Fated.step {past : History} {s s' : State} {event : Event} (fated : Fated past s)
    (h : s.step? event = some s') : Fated (past ++ [(s, event)]) s' where
  tasks _ ht := .of_comes fated.tasks (State.step_comes h ht)
  reports := by
    have old : ∀ report ∈ s.reports, Tells (past ++ [(s, event)]) report := fun report hr =>
      (fated.reports report hr).imp fun _ tells => ⟨tells.1.concat s event, tells.2⟩
    obtain ⟨hr, -⟩ | ⟨task, ht, -, hr, -⟩ := State.step_reports h
    · rwa [hr]
    · have was : task ∈ s.tasks := by
        rcases ht with removed | ⟨held, -⟩
        · exact mem_tasks.mpr (Or.inr (Or.inr removed))
        · exact mem_tasks.mpr (Or.inr (Or.inl ⟨_, held, List.mem_singleton.mpr rfl⟩))
      rw [hr]
      intro report hm
      rcases List.mem_append.mp hm with hm | hm
      · exact old report hm
      · rw [List.mem_singleton.mp hm]
        exact ⟨task, (fated.tasks task was).concat s event, rfl⟩

theorem Run.fated {slots : Nat} {past : History} {s : State} (run : Run slots past s) :
    Fated past s := by
  induction run with
  | init => exact ⟨by simp [State.tasks, State.new, Queue.empty], by simp [State.new]⟩
  | step event _ happens ih => exact ih.step happens

/-- The id of the task that a worker transfers, if it does. -/
def Worker.transferred : Worker → List TaskId
  | .busy task => if task.status = .pending then [task.id] else []
  | _ => []

namespace State

variable {s s' : State} {event : Event}

/-- The ids of the tasks that are being transferred. -/
def transferring (s : State) : List TaskId :=
  s.workers.flatMap Worker.transferred

theorem transferring_count {index : Nat} {before : Worker} (after : Worker)
    (had : s.workers[index]? = some before) (has : s'.workers = s.workers.set index after)
    (id : TaskId) : s'.transferring.count id + before.transferred.count id =
      s.transferring.count id + after.transferred.count id := by
  unfold transferring
  rw [has]
  exact flatMap_set_count Worker.transferred after had id

theorem signal_transferred (signaled : List TaskId) (worker : Worker) :
    (Worker.signal signaled worker).transferred = worker.transferred := by
  cases worker with
  | busy task =>
    simp only [Worker.signal, Worker.transferred]
    split <;> rfl
  | _ => rfl

theorem step_finished_count (h : s.step? event = some s') (id : TaskId) :
    event.finishes.count id + s'.transferring.count id =
      s.transferring.count id + (s.begins event).count id := by
  have quiet (finishes : event.finishes = []) (begins : s.begins event = [])
      (same : s'.transferring.count id + ([] : List TaskId).count id =
        s.transferring.count id + ([] : List TaskId).count id) :
      event.finishes.count id + s'.transferring.count id =
        s.transferring.count id + (s.begins event).count id := by
    rw [finishes, begins, ← same]
    exact Nat.add_comm _ _
  cases event with
  | take index =>
    obtain ⟨hw, _, task, queue, hq, after⟩ := step_take h
    have has : s'.workers = s.workers.set index (.busy task) := by rw [after]; rfl
    have hs := transferring_count (.busy task) hw has id
    have hb : s.begins (.take index) = (Worker.busy task).transferred := by
      by_cases pending : task.status = .pending <;>
        simp [begins, Worker.transferred, Queue.entries_of_pop? hq, pending]
    rw [hb, ← hs]
    exact Nat.add_comm _ _
  | finish index left result =>
    obtain ⟨held, hw, pending, same, after⟩ := step_finish h
    have has : s'.workers = s.workers.set index (.returning (ended
      { left with canceled := held.canceled || left.canceled } result)) := by rw [after]; rfl
    have hs := transferring_count _ hw has id
    simp only [Worker.transferred, if_pos pending, same, List.count_nil] at hs
    rw [Event.finishes, Nat.add_comm, hs]
    rfl
  | cancel key =>
    cases h
    simp [transferring, cancel, List.flatMap_map, signal_transferred, Event.finishes, begins]
  | start =>
    cases h
    have hn : (List.replicate s.limiter.slots Worker.idle).flatMap Worker.transferred = [] := by
      rw [List.flatMap_replicate]
      exact List.flatten_replicate_nil
    simp [transferring, Event.finishes, begins, hn]
  | acquire index =>
    obtain ⟨hw, _, limiter, _, rfl⟩ := step_acquire h
    exact quiet rfl rfl (transferring_count .ready hw rfl id)
  | putBack index =>
    obtain ⟨back, hw, rfl⟩ := step_putBack h
    exact quiet rfl rfl (transferring_count .spent hw rfl id)
  | notify index =>
    obtain ⟨task, hw, terminal, after⟩ := step_notify h
    have notPending : task.status ≠ .pending := by
      intro pending
      rw [pending] at terminal
      contradiction
    have has : s'.workers = s.workers.set index .spent := by rw [after]; rfl
    have hs := transferring_count .spent hw has id
    simp only [Worker.transferred, if_neg notPending] at hs
    exact quiet rfl rfl hs
  | release index =>
    obtain ⟨hw, rfl⟩ := step_release h
    exact quiet rfl rfl (transferring_count .idle hw rfl id)
  | leave index =>
    obtain ⟨_, ⟨hw, rfl⟩ | ⟨hw, rfl⟩⟩ := step_leave h <;>
      exact quiet rfl rfl (transferring_count .stopped hw rfl id)
  | acknowledge index =>
    obtain ⟨_, _, rfl⟩ := step_acknowledge h
    simp [transferring, report, Event.finishes, begins]
  | submit _ | shutdown =>
    cases h
    simp [transferring, Event.finishes, begins]

theorem cancel_waiting_count (s : State) (key : Key) (id : TaskId) :
    (s.withdraws (.cancel key)).count id + (s.cancel key).waiting.count id = s.waiting.count id := by
  -- Only pending tasks are meant, so that it does not matter which of them are picked out first.
  have meant (task : Task) (h : Queue.isMeant key task = true) :
      (task.status == .pending) = true := by
    simp only [Queue.isMeant, Bool.and_eq_true] at h
    exact h.1
  have hm : s.queue.entries.filter (Queue.isMeant key) =
      (s.queue.entries.filter (·.status == .pending)).filter (Queue.isMeant key) := by
    rw [List.filter_filter]
    refine List.filter_congr fun task _ => ?_
    cases h : Queue.isMeant key task with
    | false => rw [Bool.false_and]
    | true => rw [meant task h, Bool.true_and]
  have ho : (s.queue.entries.filter (!Queue.isMeant key ·)).filter (·.status == .pending) =
      (s.queue.entries.filter (·.status == .pending)).filter (!Queue.isMeant key ·) := by
    rw [List.filter_filter, List.filter_filter]
    exact List.filter_congr fun task _ => Bool.and_comm _ _
  simp only [withdraws, waiting, cancel, Queue.cancel]
  rw [hm, ho, ← List.count_append, ← List.map_append]
  exact ((List.filter_append_perm _ _).map _).count_eq id

/-- A task that waits for its transfer is transferred or withdrawn, and then waits no more. -/
theorem step_withdrawn_count (settled : s.Settled) (h : s.step? event = some s') (id : TaskId) :
    (s.begins event).count id + (s.withdraws event).count id + s'.waiting.count id ≤
      s.waiting.count id + (event.submits.map (·.id)).count id := by
  cases event with
  | cancel key =>
    cases h
    have hc := cancel_waiting_count s key id
    simp only [begins, Event.submits, List.map_nil, List.count_nil]
    omega
  | _ =>
    have hw := step_waiting_count settled h id
    simpa only [withdraws, List.count_nil, Nat.add_zero] using hw

end State

/-- How often a task has been transferred or withdrawn. -/
structure Counted (past : History) (s : State) (id : TaskId) : Prop where
  once : past.begun.count id + past.withdrawn.count id + s.waiting.count id ≤
    (past.submitted.map (·.id)).count id
  ends : past.finished.count id + s.transferring.count id = past.begun.count id

theorem Counted.step {past : History} {s s' : State} {event : Event} {id : TaskId}
    (counted : Counted past s id) (settled : s.Settled) (h : s.step? event = some s') :
    Counted (past ++ [(s, event)]) s' id where
  once := by
    have hw := State.step_withdrawn_count settled h id
    have ho := counted.once
    rw [History.begun_concat, History.withdrawn_concat, History.submitted_concat, List.map_append,
      List.count_append, List.count_append, List.count_append]
    omega
  ends := by
    have hf := State.step_finished_count h id
    have he := counted.ends
    rw [History.finished_concat, History.begun_concat, List.count_append, List.count_append]
    omega

theorem Run.counted {slots : Nat} {past : History} {s : State} (run : Run slots past s)
    (id : TaskId) : Counted past s id := by
  induction run with
  | init => exact ⟨Nat.le_refl _, rfl⟩
  | step event run happens ih => exact ih.step run.accounted.settled happens

end Courier.Scheduler
