import Courier.Proofs.Scheduler.Notification
import Mathlib.Algebra.BigOperators.Group.List.Basic
import Mathlib.Algebra.GroupWithZero.Nat
import Mathlib.Data.List.Induction
import Mathlib.Tactic.SplitIfs

/-! Permits bound the tasks that are worked on. A worker owns a permit from when it is granted until it is
given back; whoever has a task owns one, and there are never more of them than slots. -/
namespace Courier

/-- Permits that are not in use. -/
def Limiter.free (l : Limiter) : Nat :=
  l.slots - l.held

theorem Limiter.free_of_granted (l : Limiter) {l' : Limiter} (granted : l.acquire = (.granted, l')) :
    l.held < l.slots ∧ l' = { l with held := l.held + 1 } := by
  unfold acquire at granted
  split_ifs at granted with closed free
  · cases granted
  · exact ⟨free, (Prod.mk.inj granted).2.symm⟩
  · cases granted

namespace Scheduler

/-- The worker that an event grants a permit. -/
def Event.grants : Event → List Nat
  | .acquire index => [index]
  | _ => []

/-- The worker whose permit an event gives back: one that is done with a task, or one that leaves while
it waits for one. -/
def State.returns (s : State) : Event → List Nat
  | .release index => [index]
  | .leave index => if s.workers[index]? = some .ready then [index] else []
  | _ => []

namespace History

def granted (past : History) : List Nat :=
  past.flatMap fun (_, event) => event.grants

/-- The workers whose permits have been given back so far, once for each. -/
def returned (past : History) : List Nat :=
  past.flatMap fun (s, event) => s.returns event

/-- Whether a worker has been granted a permit that it has not given back. -/
def owns (past : History) (index : Nat) : Bool :=
  past.returned.count index < past.granted.count index

@[simp] theorem granted_concat (past : History) (s : State) (event : Event) :
    granted (past ++ [(s, event)]) = granted past ++ event.grants := by
  simp [granted]

@[simp] theorem returned_concat (past : History) (s : State) (event : Event) :
    returned (past ++ [(s, event)]) = returned past ++ s.returns event := by
  simp [returned]

end History

/-- The permits of a worker, going by what it does. -/
def Worker.permits : Worker → Nat
  | .idle | .stopped => 0
  | .ready | .busy _ | .returning _ | .spent => 1

theorem signal_permits (signaled : List TaskId) (worker : Worker) :
    (State.Worker.signal signaled worker).permits = worker.permits := by
  cases worker <;> rfl

theorem permits_set {workers : List Worker} {index : Nat} {before : Worker} (after : Worker)
    (had : workers[index]? = some before) :
    ((workers.set index after).map Worker.permits).sum + before.permits =
      (workers.map Worker.permits).sum + after.permits := by
  obtain ⟨inside, rfl⟩ := List.getElem?_eq_some_iff.mp had
  have now := ((List.set_perm_cons_eraseIdx inside after).map Worker.permits).sum_eq
  have old := ((List.getElem_cons_eraseIdx_perm inside).map Worker.permits).sum_eq
  rw [List.map_cons, List.sum_cons] at now old
  omega

theorem permits_le_sum {workers : List Worker} {index : Nat} {worker : Worker}
    (had : workers[index]? = some worker) : worker.permits ≤ (workers.map Worker.permits).sum := by
  have total : _ + worker.permits = _ + 0 := permits_set .stopped had
  omega

/-- The permits of the worker of a number, if there is one. -/
def State.permitsOf (s : State) (index : Nat) : Nat :=
  (s.workers[index]?.map Worker.permits).getD 0

/-- Who has which permits after some events. -/
structure Permitted (slots : Nat) (past : History) (s : State) : Prop where
  slots : s.limiter.slots = max slots 1
  bounded : s.limiter.held ≤ s.limiter.slots
  held : s.limiter.held = (s.workers.map Worker.permits).sum
  owned : ∀ index, past.granted.count index = past.returned.count index + s.permitsOf index

namespace Permitted

variable {slots : Nat} {past : History} {s s' : State} {event : Event}

theorem new (slots : Nat) : Permitted slots [] (.new slots) where
  slots := rfl
  bounded := Nat.zero_le _
  held := rfl
  owned _ := rfl

theorem same (permitted : Permitted slots past s) (limiter : s'.limiter.slots = s.limiter.slots)
    (held : s'.limiter.held = s.limiter.held) (grants : event.grants = [])
    (returns : s.returns event = [])
    (total : (s'.workers.map Worker.permits).sum = (s.workers.map Worker.permits).sum)
    (each : ∀ index, s'.permitsOf index = s.permitsOf index) :
    Permitted slots (past ++ [(s, event)]) s' where
  slots := limiter.trans permitted.slots
  bounded := by
    rw [held, limiter]
    exact permitted.bounded
  held := held.trans (permitted.held.trans total.symm)
  owned index := by
    rw [History.granted_concat, History.returned_concat, grants, returns, List.append_nil,
      List.append_nil, each]
    exact permitted.owned index

/-- An event of one worker, by which permits are granted to it or given back. -/
theorem set (permitted : Permitted slots past s) {index : Nat} (granted returned : Nat)
    {before after : Worker} (had : s.workers[index]? = some before)
    (has : s'.workers = s.workers.set index after) (limiter : s'.limiter.slots = s.limiter.slots)
    (grants : event.grants = List.replicate granted index)
    (returns : s.returns event = List.replicate returned index)
    (permits : before.permits + granted = after.permits + returned)
    (held : s'.limiter.held + returned = s.limiter.held + granted)
    (bounded : s'.limiter.held ≤ s.limiter.slots) :
    Permitted slots (past ++ [(s, event)]) s' where
  slots := limiter.trans permitted.slots
  bounded := limiter ▸ bounded
  held := by
    have total := permits_set after had
    have old := permitted.held
    rw [has]
    omega
  owned other := by
    have owned := permitted.owned other
    rw [History.granted_concat, History.returned_concat, grants, returns, List.count_append,
      List.count_append, List.count_replicate, List.count_replicate]
    unfold State.permitsOf at owned ⊢
    by_cases own : index = other
    · subst own
      have inside := (List.getElem?_eq_some_iff.mp had).1
      rw [had] at owned
      rw [has, List.getElem?_set_self inside]
      simp only [Option.map_some, Option.getD_some, beq_self_eq_true, if_true] at owned ⊢
      omega
    · rw [has, List.getElem?_set_ne own]
      simpa [own] using owned

theorem pos (permitted : Permitted slots past s) {index : Nat} {worker : Worker}
    (had : s.workers[index]? = some worker) : worker.permits ≤ s.limiter.held :=
  permitted.held ▸ permits_le_sum had

theorem step (permitted : Permitted slots past s) (h : s.step? event = some s') :
    Permitted slots (past ++ [(s, event)]) s' := by
  cases event with
  | acquire index =>
    obtain ⟨had, -, limiter, granted, rfl⟩ := State.step_acquire h
    obtain ⟨free, rfl⟩ := s.limiter.free_of_granted granted
    exact permitted.set 1 0 had rfl rfl rfl rfl rfl (Nat.add_zero _) free
  | take index =>
    obtain ⟨had, -, task, queue, -, rfl⟩ := State.step_take h
    exact permitted.set 0 0 had rfl rfl rfl rfl rfl rfl permitted.bounded
  | finish index task result =>
    obtain ⟨held, had, -, -, rfl⟩ := State.step_finish h
    exact permitted.set 0 0 had rfl rfl rfl rfl rfl rfl permitted.bounded
  | putBack index =>
    obtain ⟨task, had, rfl⟩ := State.step_putBack h
    exact permitted.set 0 0 had rfl rfl rfl rfl rfl rfl permitted.bounded
  | notify index =>
    obtain ⟨task, had, -, rfl⟩ := State.step_notify h
    exact permitted.set 0 0 had rfl rfl rfl rfl rfl rfl permitted.bounded
  | release index =>
    obtain ⟨had, rfl⟩ := State.step_release h
    have used : 1 ≤ s.limiter.held := permitted.pos had
    have fewer := Nat.le_trans (Nat.sub_le s.limiter.held 1) permitted.bounded
    exact permitted.set 0 1 had rfl rfl rfl rfl rfl
      (Nat.sub_add_cancel used) fewer
  | leave index =>
    obtain ⟨-, ⟨had, rfl⟩ | ⟨had, rfl⟩⟩ := State.step_leave h
    · have nothing : s.returns (.leave index) = List.replicate 0 index := by simp [State.returns, had]
      exact permitted.set 0 0 had rfl rfl rfl nothing rfl rfl permitted.bounded
    · have own : s.returns (.leave index) = List.replicate 1 index := by simp [State.returns, had]
      have used : 1 ≤ s.limiter.held := permitted.pos had
      have fewer := Nat.le_trans (Nat.sub_le s.limiter.held 1) permitted.bounded
      exact permitted.set 0 1 had rfl rfl rfl own rfl (Nat.sub_add_cancel used) fewer
  | cancel key =>
    cases h
    have told : ((s.workers.map (State.Worker.signal (s.queue.cancel key).1.signaled)).map
        Worker.permits) = s.workers.map Worker.permits := by
      rw [List.map_map]
      exact List.map_congr_left fun worker _ => signal_permits _ worker
    refine permitted.same rfl rfl rfl rfl (congrArg List.sum told) fun index => ?_
    have there := congrArg (·[index]?) told
    simp only [List.getElem?_map] at there
    simp only [State.permitsOf, State.cancel, List.getElem?_map, there]
  | start =>
    cases h
    have none_yet : ((List.replicate s.limiter.slots Worker.idle).map Worker.permits).sum = 0 := by
      simp [Worker.permits]
    refine permitted.same rfl rfl rfl rfl ?_ fun index => ?_
    · rw [List.map_append, List.sum_append, none_yet, Nat.add_zero]
    · unfold State.permitsOf
      by_cases old : index < s.workers.length
      · rw [List.getElem?_append_left old]
      · rw [List.getElem?_append_right (Nat.le_of_not_lt old),
          List.getElem?_eq_none (Nat.le_of_not_lt old), List.getElem?_replicate]
        split <;> rfl
  | acknowledge index =>
    obtain ⟨_, _, rfl⟩ := State.step_acknowledge h
    exact permitted.same rfl rfl rfl rfl rfl fun _ => rfl
  | submit task | shutdown =>
    cases h
    exact permitted.same rfl rfl rfl rfl rfl fun _ => rfl

end Permitted

theorem Run.permitted {slots : Nat} {past : History} {s : State} (run : Run slots past s) :
    Permitted slots past s := by
  induction run with
  | init => exact .new slots
  | step event _ happens ih => exact ih.step happens

namespace Permitted

variable {slots : Nat} {past : History} {s : State}

theorem owns_iff (permitted : Permitted slots past s) (index : Nat) :
    past.owns index = true ↔ 0 < s.permitsOf index := by
  have owned := permitted.owned index
  rw [History.owns, decide_eq_true_iff]
  omega

/-- As many workers own a permit as permits are in use. -/
theorem owners (permitted : Permitted slots past s) :
    (List.range s.workers.length).countP past.owns = s.limiter.held := by
  have each (workers : List Worker) : (List.range workers.length).countP
      (fun index => 0 < (workers[index]?.map Worker.permits).getD 0) =
        (workers.map Worker.permits).sum := by
    -- The induction goes from the last worker to the first, as the numbers do.
    induction workers using List.reverseRecOn with
    | nil => rfl
    | append_singleton workers worker ih =>
      have before : (List.range workers.length).countP
          (fun index => 0 < ((workers ++ [worker])[index]?.map Worker.permits).getD 0) =
            (workers.map Worker.permits).sum := by
        rw [← ih]
        refine List.countP_congr fun index inside => ?_
        rw [List.getElem?_append_left (List.mem_range.mp inside)]
      rw [List.length_append, List.length_singleton, List.range_succ, List.countP_append, before,
        List.map_append, List.sum_append]
      cases worker <;> simp [Worker.permits]
  rw [permitted.held, ← each]
  refine List.countP_congr fun index _ => ?_
  rw [permitted.owns_iff, decide_eq_true_iff]
  rfl

theorem held_length (permitted : Permitted slots past s) : s.held.length ≤ max slots 1 := by
  have each : (s.workers.flatMap Worker.taskIds).length ≤ (s.workers.map Worker.permits).sum := by
    induction s.workers with
    | nil => exact Nat.le_refl 0
    | cons worker rest ih =>
      have own : worker.taskIds.length ≤ worker.permits := by
        cases worker <;> simp [Worker.taskIds, Worker.permits]
      rw [List.flatMap_cons, List.length_append, List.map_cons, List.sum_cons]
      omega
  have held := permitted.held
  have bounded := permitted.bounded
  rw [permitted.slots] at bounded
  unfold State.held
  omega

end Permitted

/-- Nothing but a shutdown shuts the scheduler down or closes its limiter, and nothing opens them again. -/
theorem State.down_of_step {s s' : State} {event : Event} (h : s.step? event = some s')
    (other : event ≠ .shutdown) :
    s'.shutdown = s.shutdown ∧ s'.limiter.closed = s.limiter.closed := by
  cases event with
  | shutdown => exact absurd rfl other
  | submit | cancel | start =>
    cases h
    exact ⟨rfl, rfl⟩
  | acknowledge index =>
    obtain ⟨_, _, rfl⟩ := step_acknowledge h
    exact ⟨rfl, rfl⟩
  | acquire index =>
    obtain ⟨_, _, limiter, granted, rfl⟩ := step_acquire h
    obtain ⟨_, rfl⟩ := s.limiter.free_of_granted granted
    exact ⟨rfl, rfl⟩
  | take index =>
    obtain ⟨_, _, _, _, _, rfl⟩ := step_take h
    exact ⟨rfl, rfl⟩
  | finish index task result =>
    obtain ⟨_, _, _, _, rfl⟩ := step_finish h
    exact ⟨rfl, rfl⟩
  | putBack index =>
    obtain ⟨_, _, rfl⟩ := step_putBack h
    exact ⟨rfl, rfl⟩
  | notify index =>
    obtain ⟨_, _, _, rfl⟩ := step_notify h
    exact ⟨rfl, rfl⟩
  | release index =>
    obtain ⟨_, rfl⟩ := step_release h
    exact ⟨rfl, rfl⟩
  | leave index =>
    obtain ⟨_, ⟨_, rfl⟩ | ⟨_, rfl⟩⟩ := step_leave h <;> exact ⟨rfl, rfl⟩

theorem Run.shutdown_iff {slots : Nat} {past : History} {s : State} (run : Run slots past s) :
    (s.shutdown = true ↔ ∃ t, (t, Event.shutdown) ∈ past) ∧ s.limiter.closed = s.shutdown := by
  induction run with
  | init => exact ⟨by simp [State.new], rfl⟩
  | @step past s s' event _ happens ih =>
    by_cases down : event = .shutdown
    · subst down
      cases happens
      exact ⟨by simp, rfl⟩
    · obtain ⟨shutdown, closed⟩ := State.down_of_step happens down
      refine ⟨?_, by rw [closed, shutdown, ih.2]⟩
      rw [shutdown, ih.1]
      simp [Ne.symm down]

theorem State.acquire_isSome_iff {s : State} (closed : s.limiter.closed = s.shutdown) {index : Nat}
    (waits : s.workers[index]? = some .idle) :
    (s.step? (.acquire index)).isSome = true ↔ s.shutdown = false ∧ 0 < s.limiter.free := by
  simp only [step?, waits, Limiter.acquire, closed, Limiter.free, Nat.sub_pos_iff_lt]
  split_ifs with down free <;> simp_all

/-- Only a cancellation takes a task out of the queue of a scheduler that has been shut down. -/
theorem State.entries_of_shutdown {s s' : State} {event : Event} (down : s.shutdown = true)
    (h : s.step? event = some s') (other : ∀ key, event ≠ .cancel key) :
    s.queue.entries <+: s'.queue.entries := by
  cases event with
  | take index =>
    obtain ⟨-, up, -⟩ := step_take h
    rw [down] at up
    contradiction
  | cancel key => exact absurd rfl (other key)
  | submit task =>
    cases h
    exact List.prefix_append _ _
  | putBack index =>
    obtain ⟨_, _, rfl⟩ := step_putBack h
    exact List.prefix_append _ _
  | acknowledge index =>
    obtain ⟨_, _, rfl⟩ := step_acknowledge h
    exact List.prefix_refl _
  | acquire index =>
    obtain ⟨_, _, _, _, rfl⟩ := step_acquire h
    exact List.prefix_refl _
  | finish index task result =>
    obtain ⟨_, _, _, _, rfl⟩ := step_finish h
    exact List.prefix_refl _
  | notify index =>
    obtain ⟨_, _, _, rfl⟩ := step_notify h
    exact List.prefix_refl _
  | release index =>
    obtain ⟨_, rfl⟩ := step_release h
    exact List.prefix_refl _
  | leave index =>
    obtain ⟨_, ⟨_, rfl⟩ | ⟨_, rfl⟩⟩ := step_leave h <;> exact List.prefix_refl _
  | start | shutdown =>
    cases h
    exact List.prefix_refl _

/-- Work is bounded by the slots, however often workers are started and whatever else happens. No more
tasks than slots are worked on, and each of them by a worker that owns a permit; the permits owned and
the free ones are as many as the slots, and a free one can be had until the shutdown. A worker that has
stopped has given back all permits it was granted, and none takes a task once the shutdown has begun. -/
theorem work_within_slots {slots : Nat} {past : History} {s : State} (run : Run slots past s) :
    s.held.length ≤ max slots 1 ∧
      (∀ index task, (s.workers[index]? = some (.busy task) ∨ s.workers[index]? = some (.returning task)) →
        past.owns index = true) ∧
      (List.range s.workers.length).countP past.owns + s.limiter.free = max slots 1 ∧
      (∀ index, s.workers[index]? = some .idle →
        ((s.step? (.acquire index)).isSome = true ↔
          (¬∃ t, (t, Event.shutdown) ∈ past) ∧ 0 < s.limiter.free)) ∧
      (∀ index, s.workers[index]? = some .stopped →
        past.returned.count index = past.granted.count index) ∧
      ((∃ t, (t, Event.shutdown) ∈ past) → ∀ event s', s.step? event = some s' →
        (∀ index, event ≠ .take index) ∧
          ((∀ key, event ≠ .cancel key) → s.queue.entries <+: s'.queue.entries)) := by
  have permitted := run.permitted
  obtain ⟨down, closed⟩ := run.shutdown_iff
  refine ⟨permitted.held_length, ?_, ?_, ?_, ?_, ?_⟩
  · intro index task works
    rw [permitted.owns_iff]
    obtain works | works := works <;> simp [State.permitsOf, works, Worker.permits]
  · have bounded := permitted.bounded
    rw [permitted.owners, Limiter.free, ← permitted.slots]
    omega
  · intro index waits
    rw [State.acquire_isSome_iff closed waits, ← down, Bool.not_eq_true]
  · intro index stopped
    have owned := permitted.owned index
    simp only [State.permitsOf, stopped, Worker.permits, Option.map_some, Option.getD_some] at owned
    exact owned.symm
  · intro begun event s' happens
    refine ⟨?_, State.entries_of_shutdown (down.mpr begun) happens⟩
    rintro index rfl
    obtain ⟨-, up, -⟩ := State.step_take happens
    rw [down.mpr begun] at up
    contradiction

/-- No slots are asked for, which gives one, and workers are started twice. The shutdown comes while one
of them transfers a task, and another task stays in the queue. -/
theorem work_within_slots_of_shutdown : ∃ past s, Run 0 past s ∧
    s.workers = [.busy (twin 1), .stopped] ∧ (∃ t, (t, Event.shutdown) ∈ past) ∧
    s.held.length ≤ 1 ∧ past.owns 0 = true ∧ past.returned.count 1 = past.granted.count 1 ∧
    ∀ event s', s.step? event = some s' → ∀ index, event ≠ .take index := by
  have run := (Run.init : Run 0 [] (.new 0))
    |>.step .start rfl
    |>.step (.submit (twin 1)) rfl
    |>.step .start rfl
    |>.step (.acquire 1) rfl
    |>.step (.take 1) rfl
    |>.step (.finish 1 (twin 1) (.error .canceled)) rfl
    |>.step (.putBack 1) rfl
    |>.step (.release 1) rfl
    |>.step (.acquire 0) rfl
    |>.step (.take 0) rfl
    |>.step (.notify 0) rfl
    |>.step (.submit (twin 1)) rfl
    |>.step (.submit (twin 2)) rfl
    |>.step (.release 0) rfl
    |>.step (.acquire 0) rfl
    |>.step (.take 0) rfl
    |>.step .shutdown rfl
    |>.step (.leave 1) rfl
  obtain ⟨few, owned, -, -, back, ended⟩ := work_within_slots run
  have down : ∃ t, (t, Event.shutdown) ∈ _ := run.shutdown_iff.1.mp rfl
  exact ⟨_, _, run, rfl, down, few, owned 0 (twin 1) (.inl rfl), back 1 rfl,
    fun event s' happens => (ended down event s' happens).1⟩

end Scheduler

end Courier
