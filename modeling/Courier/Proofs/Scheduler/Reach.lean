import Courier.Proofs.Queue.Cancellation
import Courier.Proofs.Scheduler.Cancellation
import Courier.Proofs.Task.Source

/-! Which tasks a cancellation reaches. A task has the source it was submitted with for as long as it is
there, and those in flight are remembered by their keys; so a key meets the tasks of one source,
wherever they are until they have ended. -/
namespace Courier

open Origin (SameSource)

namespace Transfer

variable {engine : Engine} {task task' : Task} {medium : Medium} {stage : Stage} {t : List Exchange}

theorem prepared_sameSource (task : Task) : (prepared task).origin.SameSource task.origin := by
  have named : task.withName.origin.SameSource task.origin := by
    unfold Task.withName
    split
    · split
      · exact task.rename_sameSource _
      · exact .refl _
    · exact .refl _
  unfold prepared
  dsimp only
  split <;> exact named

theorem carry_sameSource {file : RemoteFile} {cachePath : String}
    {result : Except TransferError Unit}
    (ran : (carry engine task file medium cachePath).Trace t (task', result)) :
    task'.origin.SameSource task.origin := by
  simp only [carry, Job.bind_eq, Job.trace_bind] at ran
  obtain ⟨fetched, t₁, t₂, -, -, ran⟩ := ran
  cases fetched with
  | error e =>
    obtain ⟨rfl, -⟩ := Prod.mk.inj (Job.trace_done.mp ran).2
    exact .refl _
  | ok =>
    simp only [persist, Job.bind_eq, Job.trace_bind, Job.pure_eq, Job.trace_done,
      Prod.mk.injEq] at ran
    obtain ⟨found, t₃, _, -, -, saved, t₄, _, -, -, -, rfl, -⟩ := ran
    cases found with
    | none => exact .refl _
    | some extension => exact task.rename_sameSource _

theorem work_sameSource (ran : (work engine task medium).Trace t (task', stage)) :
    task'.origin.SameSource task.origin := by
  cases works_of_trace ran with
  | unmade e => exact .refl _
  | article origin opening =>
    obtain ⟨rfl, -⟩ := openArticle_trace opening
    exact .refl _
  | message origin carrying => exact carry_sameSource carrying

/-- A transfer may give its task another name, a path and a storage, but never another source. -/
theorem run_sameSource (ran : (run engine task).Trace t (task', stage)) :
    task'.origin.SameSource task.origin := by
  cases runs_of_trace ran with
  | canceled => exact .refl _
  | unrouted resolving => exact prepared_sameSource task
  | working resolving working => exact (work_sameSource working).trans (prepared_sameSource task)

end Transfer

namespace Scheduler

open Queue (InUse mark)

theorem ended_origin (task : Task) (result : Except TransferError Unit) :
    (State.ended task result).origin = task.origin := by
  unfold State.ended Task.fail Task.advance
  rcases result with e | u <;> simp only
  · split <;> split <;> rfl
  · split <;> rfl

/-- Whether an event that ends a transfer gives the task of the worker back as a transfer has left
it. -/
def ReturnsOwn (engine : Engine) (s : State) : Event → Prop
  | .finish index left _ => ∀ held, s.workers[index]? = some (.busy held) →
      ∃ before after t task stage,
        (Transfer.run engine (marked held before)).Trace t (task, stage) ∧ left = marked task after
  | _ => True

theorem ReturnsOwn.sameSource {engine : Engine} {s : State} {index : Nat} {left held : Task}
    {result : Except TransferError Unit} (own : ReturnsOwn engine s (.finish index left result))
    (had : s.workers[index]? = some (.busy held)) : left.origin.SameSource held.origin := by
  obtain ⟨before, after, t, task, stage, ran, rfl⟩ := own held had
  have source := Transfer.run_sameSource ran
  exact source

/-- The task that a worker has in flight, if it does: one that was pending when it was taken. -/
def Worker.flying : Worker → List Task
  | .busy task => if task.status = .pending then [task] else []
  | .returning task => [task]
  | _ => []

theorem flying_ids_sublist (workers : List Worker) :
    ((workers.flatMap Worker.flying).map (·.id)).Sublist (workers.flatMap Worker.taskIds) := by
  induction workers with
  | nil => exact List.Sublist.refl _
  | cons worker workers ih =>
    rw [List.flatMap_cons, List.flatMap_cons, List.map_append]
    refine List.Sublist.append ?_ ih
    cases worker with
    | busy task =>
      simp only [Worker.flying, Worker.taskIds]
      split
      · exact List.Sublist.refl _
      · exact List.nil_sublist _
    | _ => exact List.Sublist.refl _

namespace State

variable {s s' : State} {event : Event}

def flying (s : State) : List Task :=
  s.workers.flatMap Worker.flying

theorem mem_tasks_of_flying {task : Task} (flies : task ∈ s.flying) : task ∈ s.tasks := by
  obtain ⟨worker, had, has⟩ := List.mem_flatMap.mp flies
  refine mem_tasks.mpr (Or.inr (Or.inl ⟨worker, had, ?_⟩))
  cases worker with
  | busy held =>
    simp only [Worker.flying] at has
    split at has
    · exact has
    · cases has
  | returning held => exact has
  | _ => cases has

/-- The queue with what is outside of it, as far as the workers have it. -/
def inUse (s : State) : InUse :=
  ⟨s.queue, s.flying, [], s.removed⟩

theorem flying_setWorker {index : Nat} {before : Worker} (after : Worker)
    (had : s.workers[index]? = some before) : ∃ others,
      s.flying.Perm (before.flying ++ others) ∧
        (s.setWorker index after).flying.Perm (after.flying ++ others) := by
  obtain ⟨inside, rfl⟩ := List.getElem?_eq_some_iff.mp had
  refine ⟨(s.workers.eraseIdx index).flatMap Worker.flying, ?_, ?_⟩
  · exact ((List.getElem_cons_eraseIdx_perm inside).flatMap_right Worker.flying).symm
  · exact (List.set_perm_cons_eraseIdx inside after).flatMap_right Worker.flying

theorem flying_of_same {index : Nat} {before : Worker} (after : Worker)
    (had : s.workers[index]? = some before) (same : after.flying.map mark = before.flying.map mark) :
    ((s.setWorker index after).flying.map mark).Perm (s.flying.map mark) := by
  obtain ⟨others, old, new⟩ := s.flying_setWorker after had
  have new := new.map mark
  rw [List.map_append, same, ← List.map_append] at new
  exact new.trans (old.map mark).symm

theorem flying_signal (signaled : List TaskId) (worker : Worker) :
    (Worker.signal signaled worker).flying.map mark = worker.flying.map mark := by
  cases worker with
  | busy task =>
    by_cases told : signaled.contains task.id = true
    · simp only [Worker.signal, Worker.flying, if_pos told, Task.askCancel]
      split <;> rfl
    · simp only [Worker.signal, Worker.flying, if_neg told]
  | returning task =>
    simp only [Worker.signal, Worker.flying]
    split <;> rfl
  | _ => rfl

theorem not_flying_of_queued (once : s.places.Nodup) {id : TaskId}
    (queued : id ∈ s.queue.entries.map (·.id)) : id ∉ s.flying.map (·.id) := by
  intro flies
  have here := List.count_pos_iff.mpr queued
  have there : 0 < s.held.count id :=
    List.count_pos_iff.mpr ((flying_ids_sublist s.workers).subset flies)
  have count := List.nodup_iff_count_le_one.mp once id
  rw [places_count] at count
  omega

theorem held_sublist (s : State) : s.held.Sublist s.places :=
  (List.sublist_append_right _ _).trans ((List.sublist_append_left _ _).trans
    (List.sublist_append_left _ _))

theorem flying_nodup (once : s.places.Nodup) : (s.flying.map (·.id)).Nodup :=
  once.sublist ((flying_ids_sublist s.workers).trans s.held_sublist)

/-- What is remembered of the tasks in flight goes with them. -/
theorem active_step {engine : Engine} (once : s.places.Nodup) (settled : s.Settled)
    (fresh : ∀ task ∈ event.submits, task.status = .pending) (own : ReturnsOwn engine s event)
    (h : s.step? event = some s') (active : s.queue.active.Perm (s.flying.map mark)) :
    s'.queue.active.Perm (s'.flying.map mark) := by
  cases event with
  | submit task =>
    cases h
    have pending := fresh task (List.mem_singleton.mpr rfl)
    show (s.queue.push task).active.Perm (s.flying.map mark)
    rwa [Queue.push, if_neg (by simp [pending, Status.isTerminal])]
  | cancel key =>
    cases h
    have same : (s.cancel key).flying.map mark = s.flying.map mark := by
      simp only [flying, cancel, List.flatMap_map, List.map_flatMap, flying_signal]
    rw [same]
    exact active
  | start =>
    cases h
    have idle : (List.replicate s.limiter.slots Worker.idle).flatMap Worker.flying = [] := by
      rw [List.flatMap_replicate]
      exact List.flatten_replicate_nil
    simp only [flying, List.flatMap_append, idle, List.append_nil]
    exact active
  | take index =>
    obtain ⟨had, -, task, queue, popped, rfl⟩ := step_take h
    obtain ⟨others, old, new⟩ := flying_setWorker (s := { s with queue }) (.busy task) had
    have queued : task.id ∈ s.queue.entries.map (·.id) := by simp [Queue.entries_of_pop? popped]
    show queue.active.Perm _
    rw [Queue.active_of_pop? popped]
    by_cases pending : task.status = .pending
    · have kept := active.filter (·.1 != task.id)
      rw [InUse.filter_marks (not_flying_of_queued once queued)] at kept
      rw [if_pos pending]
      refine List.Perm.trans ?_ (new.map mark).symm
      simp only [Worker.flying, if_pos pending]
      exact (kept.trans (old.map mark)).cons (mark task)
    · rw [if_neg pending]
      refine active.trans (flying_of_same (s := { s with queue }) (.busy task) had ?_).symm
      simp [Worker.flying, pending]
  | finish index left result =>
    obtain ⟨held, had, pending, id, rfl⟩ := step_finish h
    refine active.trans (flying_of_same _ had ?_).symm
    have key : (ended (marked left (held.canceled || left.canceled)) result).key = held.key := by
      refine SameSource.key_eq ?_
      rw [ended_origin]
      exact own.sameSource had
    simp only [Worker.flying, if_pos pending, List.map_singleton, mark, ended_id]
    exact congrArg₂ (fun id key => [(id, key)]) id.symm key
  | putBack index =>
    obtain ⟨task, had, rfl⟩ := step_putBack h
    obtain ⟨others, old, new⟩ :=
      flying_setWorker (s := { s with queue := s.queue.push task }) .spent had
    have terminal := settled.returning task (List.mem_of_getElem? had)
    have unique := (old.map (·.id)).nodup_iff.mp (flying_nodup once)
    have apart : task.id ∉ others.map (·.id) := (List.nodup_cons.mp unique).1
    have kept := (active.trans (old.map mark)).filter (·.1 != task.id)
    simp only [Worker.flying, List.singleton_append, List.map_cons] at kept
    rw [List.filter_cons_of_neg (by simp [mark]), InUse.filter_marks apart] at kept
    refine List.Perm.trans ?_ (new.map mark).symm
    show (s.queue.push task).active.Perm (others.map mark)
    rwa [Queue.push, if_pos terminal]
  | notify index =>
    obtain ⟨task, had, terminal, rfl⟩ := step_notify h
    refine active.trans (flying_of_same (s := s.report task) .spent had ?_).symm
    simp [Worker.flying, Queue.not_pending_of_isTerminal terminal]
  | acquire index =>
    obtain ⟨had, -, limiter, -, rfl⟩ := step_acquire h
    exact active.trans (flying_of_same (s := { s with limiter }) .ready had rfl).symm
  | release index =>
    obtain ⟨had, rfl⟩ := step_release h
    exact active.trans
      (flying_of_same (s := { s with limiter := s.limiter.release }) .idle had rfl).symm
  | leave index =>
    obtain ⟨-, ⟨had, rfl⟩ | ⟨had, rfl⟩⟩ := step_leave h
    · exact active.trans (flying_of_same .stopped had rfl).symm
    · exact active.trans
        (flying_of_same (s := { s with limiter := s.limiter.release }) .stopped had rfl).symm
  | acknowledge index =>
    obtain ⟨task, -, rfl⟩ := step_acknowledge h
    exact active
  | shutdown =>
    cases h
    exact active

end State

/-- A run in which workers give back their own tasks. -/
structure OwnRun (engine : Engine) (slots : Nat) (past : History) (s : State) : Prop where
  run : Run slots past s
  own : ∀ x ∈ past, ReturnsOwn engine x.1 x.2

variable {engine : Engine} {slots : Nat} {past : History} {s : State}

theorem OwnRun.step {s' : State} (so : OwnRun engine slots past s) (event : Event)
    (happens : s.step? event = some s') (own : ReturnsOwn engine s event) :
    OwnRun engine slots (past ++ [(s, event)]) s' where
  run := so.run.step event happens
  own := by
    intro x hx
    rcases List.mem_append.mp hx with hx | hx
    · exact so.own x hx
    · rw [List.mem_singleton.mp hx]
      exact own

theorem Run.places_nodup (run : Run slots past s) (distinct : (past.submitted.map (·.id)).Nodup) :
    s.places.Nodup :=
  (List.perm_iff_count.mpr run.accounted.places).nodup_iff.mpr distinct

theorem Run.active_perm (run : Run slots past s) (own : ∀ x ∈ past, ReturnsOwn engine x.1 x.2)
    (fresh : ∀ task ∈ past.submitted, task.status = .pending)
    (distinct : (past.submitted.map (·.id)).Nodup) :
    s.queue.active.Perm (s.flying.map mark) := by
  induction run with
  | init => exact List.Perm.refl _
  | step event run happens ih =>
    rw [History.submitted_concat] at fresh distinct
    rw [List.map_append] at distinct
    have earlier := (List.nodup_append.mp distinct).1
    have active := ih (fun x mem => own x (List.mem_append_left _ mem))
      (fun task mem => fresh task (List.mem_append_left _ mem)) earlier
    exact State.active_step (run.places_nodup earlier) run.accounted.settled
      (fun task mem => fresh task (List.mem_append_right _ mem)) (own (_, event) (by simp)) happens
      active

theorem Fate.source {task : Task} (own : ∀ x ∈ past, ReturnsOwn engine x.1 x.2)
    (fate : Fate past task) :
    ∃ sub ∈ past.submitted, sub.id = task.id ∧ task.origin.SameSource sub.origin := by
  cases fate with
  | waits canceled submitted => exact ⟨_, submitted, rfl, .refl _⟩
  | withdrawn canceled submitted gone => exact ⟨_, submitted, rfl, .refl _⟩
  | @ended _ _ left held result sub canceled happened had same submitted kept =>
    have id := congrArg Task.id kept
    have origin := congrArg Task.origin kept
    have source := (own _ happened).sameSource had
    rw [origin] at source
    refine ⟨sub, submitted, ?_, ?_⟩
    · have left_id := ended_id (marked left (held.canceled || left.canceled)) result
      exact id.symm.trans (same.trans left_id.symm)
    · show (State.ended (marked left _) result).origin.SameSource sub.origin
      rw [ended_origin]
      exact source

/-- What a cancellation of a source makes of a worker: it marks the task in flight. -/
def Worker.reached (source : Origin) : Worker → Worker
  | .busy task =>
    .busy (if task.status = .pending ∧ task.origin.SameSource source then task.askCancel else task)
  | .returning task =>
    .returning (if task.origin.SameSource source then task.askCancel else task)
  | worker => worker

theorem not_flying_of_busy (once : s.places.Nodup) {task : Task} (had : .busy task ∈ s.workers)
    (ended : task.status ≠ .pending) : task.id ∉ s.flying.map (·.id) := by
  obtain ⟨front, back, split⟩ := List.append_of_mem had
  have held := (State.held_sublist s).nodup once
  have flying : s.flying = front.flatMap Worker.flying ++ back.flatMap Worker.flying := by
    simp [State.flying, split, Worker.flying, ended]
  simp only [State.held, split, List.flatMap_append, List.flatMap_cons, Worker.taskIds,
    List.singleton_append] at held
  have apart := (List.nodup_cons.mp (List.perm_middle.nodup_iff.mp held)).1
  rw [flying, List.map_append, List.mem_append, not_or]
  rw [List.mem_append, not_or] at apart
  exact ⟨fun mem => apart.1 ((flying_ids_sublist front).subset mem),
    fun mem => apart.2 ((flying_ids_sublist back).subset mem)⟩

section Cancel

variable {source : Origin} (active : s.queue.active.Perm (s.flying.map mark)) (once : s.places.Nodup)
  (same : ∀ task ∈ s.tasks, task.key = source.key ↔ task.origin.SameSource source)
include active once same

theorem contains_signaled {task : Task} (flies : task ∈ s.flying) :
    (s.queue.cancel source.key).1.signaled.contains task.id = true ↔
      task.origin.SameSource source := by
  have told : task.id ∈ (s.queue.cancel source.key).1.signaled ↔ task.key = source.key :=
    InUse.mem_signaled (s := s.inUse) active (State.flying_nodup once) flies
  rw [List.contains_iff_mem, told]
  exact same task (State.mem_tasks_of_flying flies)

omit same in
theorem not_contains_signaled {task : Task} (had : .busy task ∈ s.workers)
    (ended : task.status ≠ .pending) :
    (s.queue.cancel source.key).1.signaled.contains task.id = false := by
  rw [Bool.eq_false_iff, ne_eq, List.contains_iff_mem]
  intro mem
  have flies := (InUse.signaled_perm (s := s.inUse) active source.key).subset mem
  exact not_flying_of_busy once had ended ((List.filter_sublist.map _).subset flies)

theorem cancel_workers : (s.cancel source.key).workers = s.workers.map (Worker.reached source) := by
  show s.workers.map (State.Worker.signal (s.queue.cancel source.key).1.signaled) = _
  have told {task : Task} (flies : task ∈ s.flying) := contains_signaled active once same flies
  have quiet {task : Task} (had : .busy task ∈ s.workers) (ended : task.status ≠ .pending) :
      (s.queue.cancel source.key).1.signaled.contains task.id = false :=
    not_contains_signaled active once had ended
  refine List.map_congr_left fun worker mem => ?_
  generalize (s.queue.cancel source.key).1.signaled = signaled at told quiet
  cases worker with
  | busy task =>
    by_cases pending : task.status = .pending
    · have flies : task ∈ s.flying :=
        List.mem_flatMap.mpr ⟨_, mem, by simp [Worker.flying, pending]⟩
      simp only [State.Worker.signal, Worker.reached, told flies, pending, true_and]
    · simp only [State.Worker.signal, Worker.reached, quiet mem pending, pending, false_and,
        Bool.false_eq_true]
  | returning task =>
    have flies : task ∈ s.flying := List.mem_flatMap.mpr ⟨_, mem, List.mem_singleton.mpr rfl⟩
    simp only [State.Worker.signal, Worker.reached, told flies]
  | idle | ready | spent | stopped => rfl

omit active once in
theorem isMeant_of_queued {task : Task} (queued : task ∈ s.queue.entries) :
    Queue.isMeant source.key task =
      decide (task.status = .pending ∧ task.origin.SameSource source) := by
  rw [Queue.isMeant_eq, decide_eq_decide]
  exact and_congr_right' (same task (mem_tasks.mpr (Or.inl queued)))

omit active once in
theorem cancel_entries : (s.cancel source.key).queue.entries = s.queue.entries.filter fun task =>
    ¬ (task.status = .pending ∧ task.origin.SameSource source) := by
  refine List.filter_congr fun task queued => ?_
  rw [isMeant_of_queued same queued, decide_not]

omit active once in
theorem cancel_removed : (s.cancel source.key).removed = s.removed ++
    (s.queue.entries.filter fun task =>
      task.status = .pending ∧ task.origin.SameSource source).map fun task =>
        { task with canceled := true, status := .canceled } := by
  have meant : s.queue.entries.filter (Queue.isMeant source.key) = _ :=
    List.filter_congr fun task queued => isMeant_of_queued same queued
  rw [← meant]
  rfl

omit once in
theorem canCancel_iff : s.canCancel source.key = true ↔ ∃ task, task.origin.SameSource source ∧
    (task ∈ s.flying ∨ task ∈ s.queue.entries ∧ task.status = .pending) := by
  refine (InUse.found_iff (s := s.inUse) active source.key).trans (exists_congr fun task => ?_)
  refine and_congr_left fun there => same task ?_
  obtain flies | ⟨queued, -⟩ := there
  · exact State.mem_tasks_of_flying flies
  · exact mem_tasks.mpr (Or.inl queued)

end Cancel

end Scheduler

open Scheduler (OwnRun Worker.reached)

/-- Keys are the same just when the source is: the same chat and post, or the same link, as far as the
digest tells the links apart. A key of a post tells both numbers and is never the key of a link. No
name, path or status that a task gets changes its key, and a transfer does not either.

So in every state of a run a task has the source that it was submitted with, and a cancellation by the
key of a source reaches the tasks of this source and no others: it marks those in flight and takes out
those that wait. It is found to be possible if there are any. -/
theorem key_tells_source :
    (∀ a b : Task, a.origin.NoCollision b.origin →
      (a.key = b.key ↔ a.origin.SameSource b.origin)) ∧
    (∀ chat post chat' post', Key.ofMessage chat post = Key.ofMessage chat' post' ↔
      chat = chat' ∧ post = post') ∧
    (∀ chat post link, Key.ofMessage chat post ≠ Key.ofLink link) ∧
    (∀ task : Task, (∀ name, (task.rename name).key = task.key) ∧
      (∀ path, { task with path }.key = task.key) ∧
      (∀ next task', task.advance next = .ok task' → task'.key = task.key) ∧
      (∀ reason task', task.fail reason = .ok task' → task'.key = task.key) ∧
      task.askCancel.key = task.key ∧
      ∀ engine t task' stage, (Transfer.run engine task).Trace t (task', stage) →
        task'.key = task.key) ∧
    ∀ engine slots past s, OwnRun engine slots past s →
      (past.submitted.map (·.id)).Nodup → (∀ task ∈ past.submitted, task.status = .pending) →
      ∀ source : Origin, (∀ sub ∈ past.submitted, sub.origin.NoCollision source) →
        (∀ task ∈ s.tasks, ∃ sub ∈ past.submitted, sub.id = task.id ∧
          task.origin.SameSource sub.origin) ∧
        (s.cancel source.key).workers = s.workers.map (Worker.reached source) ∧
        ((s.cancel source.key).queue.entries = s.queue.entries.filter fun task =>
          ¬ (task.status = .pending ∧ task.origin.SameSource source)) ∧
        ((s.cancel source.key).removed = s.removed ++
          (s.queue.entries.filter fun task =>
            task.status = .pending ∧ task.origin.SameSource source).map fun task =>
              { task with canceled := true, status := .canceled }) ∧
        (s.canCancel source.key = true ↔ ∃ task, task.origin.SameSource source ∧
          (task ∈ s.flying ∨ task ∈ s.queue.entries ∧ task.status = .pending)) := by
  refine ⟨fun a b apart => Origin.key_eq_iff apart, fun chat post chat' post' => Key.ofMessage_inj,
    Key.ofMessage_ne_ofLink, fun task => ⟨fun name => (task.rename_sameSource name).key_eq,
      fun path => rfl, fun next task' moved => congrArg Origin.key (Task.advance_origin moved),
      fun reason task' failed => congrArg Origin.key (Task.fail_origin failed), rfl,
      fun engine t task' stage ran => (Transfer.run_sameSource ran).key_eq⟩, ?_⟩
  intro engine slots past s so distinct fresh source apart
  have active := so.run.active_perm so.own fresh distinct
  have once := so.run.places_nodup distinct
  have sources : ∀ task ∈ s.tasks, ∃ sub ∈ past.submitted, sub.id = task.id ∧
      task.origin.SameSource sub.origin := fun task mem =>
    (so.run.fated.tasks task mem).source so.own
  have same : ∀ task ∈ s.tasks, task.key = source.key ↔ task.origin.SameSource source := by
    intro task mem
    obtain ⟨sub, submitted, -, kept⟩ := sources task mem
    exact Origin.key_eq_iff (kept.noCollision (apart sub submitted))
  exact ⟨sources, Scheduler.cancel_workers active once same, Scheduler.cancel_entries same,
    Scheduler.cancel_removed same, Scheduler.canCancel_iff active same⟩

open Transfer (attachment oneShelf)

def gallery (id : TaskId) : Task :=
  .new id (.article ⟨"https://telegra.ph/page", some ["page"]⟩) "shelf" 5 ""

/-- Of two tasks for a page one is in flight when they are canceled and one waits, behind a message that
stays where it is. -/
theorem key_tells_source_of_gallery : ∃ past s, OwnRun oneShelf 1 past s ∧
    past.submitted = [gallery 2, attachment, gallery 3] ∧
    (past.submitted.map (·.id)).Nodup ∧ (∀ task ∈ past.submitted, task.status = .pending) ∧
    (∀ sub ∈ past.submitted, sub.origin.NoCollision (gallery 2).origin) ∧
    (s.cancel (gallery 2).key).workers = [.busy (gallery 2).askCancel] ∧
    (s.cancel (gallery 2).key).queue.entries = [attachment] ∧
    (s.cancel (gallery 2).key).removed.map (·.id) = [3] := by
  have so := (⟨.init, by simp⟩ : OwnRun oneShelf 1 [] (.new 1))
    |>.step (.submit (gallery 2)) rfl trivial
    |>.step (.submit attachment) rfl trivial
    |>.step (.submit (gallery 3)) rfl trivial
    |>.step .start rfl trivial
    |>.step (.acquire 0) rfl trivial
    |>.step (.take 0) rfl trivial
  have distinct : ([gallery 2, attachment, gallery 3].map (·.id)).Nodup := by decide
  have fresh : ∀ task ∈ [gallery 2, attachment, gallery 3], task.status = .pending := by decide
  have apart : ∀ sub ∈ [gallery 2, attachment, gallery 3],
      sub.origin.NoCollision (gallery 2).origin := by
    simp [Origin.NoCollision, gallery, attachment, Task.new]
  obtain ⟨-, workers, entries, removed, -⟩ :=
    key_tells_source.2.2.2.2 oneShelf 1 _ _ so distinct fresh (gallery 2).origin apart
  refine ⟨_, _, so, rfl, distinct, fresh, apart, workers.trans ?_, entries.trans ?_,
    (congrArg (List.map (·.id)) removed).trans ?_⟩
  all_goals decide

end Courier
