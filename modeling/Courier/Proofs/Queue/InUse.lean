import Courier.Scheduler.Queue
import Mathlib.Data.List.Nodup

/-! The queue in use. Whoever pops a task has it until it is given back, and a pending one is in flight
until then. In every state of a run the active tasks of the queue are the ones in flight. -/
namespace Courier

/-- A task once a cancellation has told those that it reaches. -/
def Cancellation.tell (c : Cancellation) (task : Task) : Task :=
  if c.signaled.contains task.id then task.askCancel else task

namespace Queue

/-- A queue and the tasks outside of it. -/
structure InUse where
  queue : Queue
  /-- Tasks that were pending when they were popped, as they are by now; none has come back. -/
  flying : List Task
  /-- Tasks that had ended when they were popped. -/
  landed : List Task
  /-- Tasks that cancellations have taken out. -/
  removed : List Task

inductive Op where
  /-- Pushes a new task. -/
  | push (task : Task)
  | pop
  /-- Changes a task in flight to this one. -/
  | work (task : Task)
  /-- Pushes a popped task again. -/
  | giveBack (task : Task)
  | cancel (key : Key)

namespace InUse

def new : InUse := ⟨.empty, [], [], []⟩

def cancel (s : InUse) (key : Key) : InUse where
  queue := (s.queue.cancel key).2
  flying := s.flying.map (s.queue.cancel key).1.tell
  landed := s.landed
  removed := s.removed ++ (s.queue.cancel key).1.removed

end InUse

/-- What an operation can make of a queue in use. A task in flight may get another name and path, may
end and may be canceled; it stays the same task, and it comes back only when it has ended. -/
inductive Step : InUse → Op → InUse → Prop where
  | push {s : InUse} {task : Task} (pending : task.status = .pending) :
      Step s (.push task) { s with queue := s.queue.push task }
  | takeOff {s : InUse} {task : Task} {queue : Queue} (popped : s.queue.pop? = some (task, queue))
      (pending : task.status = .pending) :
      Step s .pop { s with queue, flying := s.flying ++ [task] }
  | land {s : InUse} {task : Task} {queue : Queue} (popped : s.queue.pop? = some (task, queue))
      (ended : task.status.isTerminal = true) :
      Step s .pop { s with queue, landed := s.landed ++ [task] }
  | work {s : InUse} {before after : List Task} {held task : Task}
      (has : s.flying = before ++ held :: after) (id : task.id = held.id) (key : task.key = held.key)
      (kept : held.canceled = true → task.canceled = true) :
      Step s (.work task) { s with flying := before ++ task :: after }
  | giveBack {s : InUse} {before after : List Task} {held task : Task}
      (has : s.flying = before ++ held :: after) (id : task.id = held.id)
      (ended : task.status.isTerminal = true) :
      Step s (.giveBack task) { s with queue := s.queue.push task, flying := before ++ after }
  | giveBackAgain {s : InUse} {before after : List Task} {held task : Task}
      (has : s.landed = before ++ held :: after) (id : task.id = held.id)
      (ended : task.status.isTerminal = true) :
      Step s (.giveBack task) { s with queue := s.queue.push task, landed := before ++ after }
  | cancel {s : InUse} (key : Key) : Step s (.cancel key) (s.cancel key)

/-- What has been done so far, each with the state it was done in. -/
abbrev History := List (InUse × Op)

inductive Run : History → InUse → Prop where
  | new : Run [] .new
  | step {past : History} {s s' : InUse} {op : Op} (run : Run past s) (next : Step s op s') :
      Run (past ++ [(s, op)]) s'

/-- The new tasks of an operation. -/
def Op.pushes : Op → List Task
  | .push task => [task]
  | _ => []

/-- The task that an operation pops. -/
def InUse.pops (s : InUse) : Op → List TaskId
  | .pop => (s.queue.pop?.map (·.1.id)).toList
  | _ => []

namespace History

def pushed (past : History) : List Task :=
  past.flatMap fun (_, op) => op.pushes

def popped (past : History) : List TaskId :=
  past.flatMap fun (s, op) => s.pops op

@[simp] theorem pushed_concat (past : History) (s : InUse) (op : Op) :
    pushed (past ++ [(s, op)]) = pushed past ++ op.pushes := by
  simp [pushed]

@[simp] theorem popped_concat (past : History) (s : InUse) (op : Op) :
    popped (past ++ [(s, op)]) = popped past ++ s.pops op := by
  simp [popped]

end History

theorem not_pending_of_isTerminal {task : Task} (ended : task.status.isTerminal = true) :
    task.status ≠ .pending := by
  intro pending
  rw [pending] at ended
  contradiction

theorem tell_id (c : Cancellation) (task : Task) : (c.tell task).id = task.id := by
  unfold Cancellation.tell
  split <;> rfl

theorem tell_key (c : Cancellation) (task : Task) : (c.tell task).key = task.key := by
  unfold Cancellation.tell
  split <;> rfl

/-- A task under its id and its key, as the queue remembers the ones in flight. -/
def mark (task : Task) : TaskId × Key :=
  (task.id, task.key)

namespace InUse

variable {past : History} {s s' : InUse} {op : Op}

def ids (s : InUse) : List TaskId :=
  s.queue.entries.map (·.id) ++ s.flying.map (·.id) ++ s.landed.map (·.id) ++ s.removed.map (·.id)

theorem count_ids (s : InUse) (id : TaskId) : s.ids.count id =
    (s.queue.entries.map (·.id)).count id + (s.flying.map (·.id)).count id +
      (s.landed.map (·.id)).count id + (s.removed.map (·.id)).count id := by
  simp only [ids, List.count_append]

theorem cancel_count_ids (s : InUse) (key : Key) (id : TaskId) :
    (s.cancel key).ids.count id = s.ids.count id := by
  have parted : (s.queue.entries.map (·.id)).count id =
      ((s.queue.entries.filter (isMeant key)).map (·.id)).count id +
        ((s.queue.entries.filter (!isMeant key ·)).map (·.id)).count id := by
    rw [← List.count_append, ← List.map_append]
    exact ((List.filter_append_perm _ _).symm.map _).count_eq id
  rw [count_ids, count_ids, parted]
  simp only [cancel, Queue.cancel, List.map_append, List.map_map, Function.comp_def, tell_id,
    List.count_append]
  omega

/-- Every task is where it was or goes to another place, and a new one goes into the queue. -/
theorem step_count_ids (next : Step s op s') (id : TaskId) :
    s'.ids.count id = s.ids.count id + (op.pushes.map (·.id)).count id := by
  cases next with
  | push pending =>
    simp only [count_ids, Queue.push, Op.pushes, List.map_append, List.count_append]
    omega
  | takeOff popped pending =>
    have same := entries_of_pop? popped
    simp only [count_ids, same, Op.pushes, List.map_append, List.map_cons, List.map_nil,
      List.count_append, List.count_cons, List.count_nil]
    omega
  | land popped ended =>
    have same := entries_of_pop? popped
    simp only [count_ids, same, Op.pushes, List.map_append, List.map_cons, List.map_nil,
      List.count_append, List.count_cons, List.count_nil]
    omega
  | work has same key kept =>
    simp only [count_ids, has, same, Op.pushes, List.map_append, List.map_cons, List.map_nil,
      List.count_nil]
    rfl
  | giveBack has same ended =>
    simp only [count_ids, has, same, Queue.push, Op.pushes, List.map_append, List.map_cons,
      List.map_nil, List.count_append, List.count_cons, List.count_nil]
    omega
  | giveBackAgain has same ended =>
    simp only [count_ids, has, same, Queue.push, Op.pushes, List.map_append, List.map_cons,
      List.map_nil, List.count_append, List.count_cons, List.count_nil]
    omega
  | cancel key =>
    rw [cancel_count_ids]
    rfl

theorem run_ids (run : Run past s) : s.ids.Perm (past.pushed.map (·.id)) := by
  rw [List.perm_iff_count]
  intro id
  induction run with
  | new => rfl
  | step run next ih =>
    rw [step_count_ids next id, ih, History.pushed_concat, List.map_append, List.count_append]

theorem flying_nodup (distinct : s.ids.Nodup) : (s.flying.map (·.id)).Nodup := by
  refine distinct.sublist ?_
  have sub : (s.flying.map (·.id)).Sublist (s.queue.entries.map (·.id) ++ s.flying.map (·.id)) :=
    List.sublist_append_right _ _
  exact (sub.trans (List.sublist_append_left _ _)).trans (List.sublist_append_left _ _)

theorem filter_marks {tasks : List Task} {id : TaskId} (absent : id ∉ tasks.map (·.id)) :
    (tasks.map mark).filter (·.1 != id) = tasks.map mark := by
  rw [List.filter_eq_self]
  intro entry has
  obtain ⟨task, ht, rfl⟩ := List.mem_map.mp has
  have other : task.id ≠ id := fun same => absent (List.mem_map.mpr ⟨task, ht, same⟩)
  simpa [mark] using other

theorem step_active (next : Step s op s') (distinct : s.ids.Nodup)
    (active : s.queue.active.Perm (s.flying.map mark)) :
    s'.queue.active.Perm (s'.flying.map mark) := by
  have apart (id : TaskId) (elsewhere : id ∈ s.queue.entries.map (·.id) ∨ id ∈ s.landed.map (·.id)) :
      id ∉ s.flying.map (·.id) := by
    intro flies
    have once := List.nodup_iff_count_le_one.mp distinct id
    have there := List.count_pos_iff.mpr flies
    rw [count_ids] at once
    rcases elsewhere with queued | landed
    · have := List.count_pos_iff.mpr queued
      omega
    · have := List.count_pos_iff.mpr landed
      omega
  cases next with
  | push pending =>
    simpa [Queue.push, pending, Status.isTerminal] using active
  | takeOff popped pending =>
    rename_i task queue
    have queued : task.id ∈ s.queue.entries.map (·.id) := by
      simp [entries_of_pop? popped]
    have kept := active.filter (·.1 != task.id)
    rw [filter_marks (apart task.id (Or.inl queued))] at kept
    show queue.active.Perm ((s.flying ++ [task]).map mark)
    rw [active_of_pop? popped, if_pos pending, List.map_append]
    exact (kept.cons (mark task)).trans (List.perm_append_singleton _ _).symm
  | land popped ended =>
    rename_i task queue
    show queue.active.Perm (s.flying.map mark)
    rw [active_of_pop? popped, if_neg (not_pending_of_isTerminal ended)]
    exact active
  | work has same key kept =>
    rename_i before after held task
    have marks : mark task = mark held := by rw [mark, mark, same, key]
    rw [has, List.map_append, List.map_cons, ← marks] at active
    simpa using active
  | giveBack has same ended =>
    rename_i before after held task
    have unique := flying_nodup distinct
    rw [has, List.map_append, List.map_cons] at unique
    have others : held.id ∉ (before ++ after).map (·.id) := by
      rw [List.map_append]
      exact (List.nodup_middle.mp unique).notMem
    have kept := active.filter (·.1 != held.id)
    rw [has, List.map_append, List.map_cons, List.filter_append, List.filter_cons_of_neg
      (by simp [mark]), ← List.filter_append, ← List.map_append, filter_marks others] at kept
    show (s.queue.push task).active.Perm ((before ++ after).map mark)
    rwa [Queue.push, if_pos ended, same]
  | giveBackAgain has same ended =>
    rename_i before after held task
    have landed : held.id ∈ s.landed.map (·.id) := by simp [has]
    have kept := active.filter (·.1 != held.id)
    rw [filter_marks (apart held.id (Or.inr landed))] at kept
    show (s.queue.push task).active.Perm (s.flying.map mark)
    rwa [Queue.push, if_pos ended, same]
  | cancel key =>
    have told : (s.flying.map (s.queue.cancel key).1.tell).map mark = s.flying.map mark := by
      rw [List.map_map]
      refine List.map_congr_left fun task _ => ?_
      rw [Function.comp_apply, mark, tell_id, tell_key, mark]
    show s.queue.active.Perm ((s.flying.map (s.queue.cancel key).1.tell).map mark)
    rwa [told]

theorem run_active (run : Run past s) (distinct : (past.pushed.map (·.id)).Nodup) :
    s.queue.active.Perm (s.flying.map mark) := by
  induction run with
  | new => exact List.Perm.refl _
  | step run next ih =>
    rw [History.pushed_concat, List.map_append] at distinct
    have earlier := (List.nodup_append.mp distinct).1
    exact step_active next ((run_ids run).nodup_iff.mpr earlier) (ih earlier)

end InUse

end Queue

end Courier
