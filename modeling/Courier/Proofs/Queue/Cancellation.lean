import Courier.Proofs.Queue.InUse

/-! A cancellation by key is exact: it tells the tasks in flight that have the key, takes out the pending
ones that wait with it, and leaves all others where they are. What it has taken out is never popped. -/
namespace Courier.Queue

theorem isMeant_eq (key : Key) (task : Task) :
    isMeant key task = decide (task.status = .pending ∧ task.key = key) := by
  rw [isMeant, beq_eq_decide, beq_eq_decide, Bool.decide_and]

theorem isMeant_iff {key : Key} {task : Task} :
    isMeant key task = true ↔ task.status = .pending ∧ task.key = key := by
  rw [isMeant_eq, decide_eq_true_iff]

namespace InUse

variable {past : History} {s s' : InUse} {op : Op} {key : Key}

theorem signaled_perm (active : s.queue.active.Perm (s.flying.map mark)) (key : Key) :
    (s.queue.cancel key).1.signaled.Perm ((s.flying.filter (·.key = key)).map (·.id)) := by
  have kept := (active.filter (·.2 == key)).map (·.1)
  rw [List.filter_map, List.map_map] at kept
  have same : (s.flying.filter ((·.2 == key) ∘ mark)) = s.flying.filter (·.key = key) :=
    List.filter_congr fun task _ => beq_eq_decide task.key key
  rw [same] at kept
  exact kept

theorem mem_signaled (active : s.queue.active.Perm (s.flying.map mark))
    (distinct : (s.flying.map (·.id)).Nodup) {task : Task} (flies : task ∈ s.flying) :
    task.id ∈ (s.queue.cancel key).1.signaled ↔ task.key = key := by
  rw [(signaled_perm active key).mem_iff, List.mem_map]
  constructor
  · rintro ⟨other, has, same⟩
    obtain ⟨there, meant⟩ := List.mem_filter.mp has
    rw [← List.inj_on_of_nodup_map distinct there flies same]
    exact of_decide_eq_true meant
  · intro meant
    exact ⟨task, List.mem_filter.mpr ⟨flies, decide_eq_true meant⟩, rfl⟩

theorem cancel_flying (active : s.queue.active.Perm (s.flying.map mark))
    (distinct : (s.flying.map (·.id)).Nodup) (key : Key) : (s.cancel key).flying =
      s.flying.map fun task => if task.key = key then task.askCancel else task := by
  refine List.map_congr_left fun task flies => ?_
  have told : task.id ∈ (s.queue.cancel key).1.signaled ↔ task.key = key :=
    mem_signaled active distinct flies
  simp only [Cancellation.tell, List.contains_iff_mem, told]

theorem found_iff (active : s.queue.active.Perm (s.flying.map mark)) (key : Key) :
    (s.queue.cancel key).1.found = true ↔ ∃ task, task.key = key ∧
      (task ∈ s.flying ∨ task ∈ s.queue.entries ∧ task.status = .pending) := by
  have told : (s.queue.cancel key).1.signaled ≠ [] ↔ ∃ task ∈ s.flying, task.key = key := by
    rw [← List.length_pos_iff, (signaled_perm active key).length_eq, List.length_map,
      List.length_pos_iff_exists_mem]
    simp only [List.mem_filter, decide_eq_true_iff]
  have taken : (s.queue.cancel key).1.removed ≠ [] ↔
      ∃ task ∈ s.queue.entries, task.status = .pending ∧ task.key = key := by
    rw [Queue.cancel, ne_eq, List.map_eq_nil_iff, List.filter_eq_nil_iff]
    simp only [isMeant_iff, not_forall, not_not, exists_prop]
  have either : (s.queue.cancel key).1.found = true ↔
      (s.queue.cancel key).1.signaled ≠ [] ∨ (s.queue.cancel key).1.removed ≠ [] := by
    simp [Cancellation.found]
  rw [either, told, taken]
  constructor
  · rintro (⟨task, flies, meant⟩ | ⟨task, queued, pending, meant⟩)
    · exact ⟨task, meant, Or.inl flies⟩
    · exact ⟨task, meant, Or.inr ⟨queued, pending⟩⟩
  · rintro ⟨task, meant, flies | ⟨queued, pending⟩⟩
    · exact Or.inl ⟨task, flies, meant⟩
    · exact Or.inr ⟨task, queued, pending, meant⟩

theorem removed_of_step (next : Step s op s') {task : Task} (out : task ∈ s.removed) :
    task ∈ s'.removed := by
  cases next with
  | cancel key => exact List.mem_append_left _ out
  | _ => exact out

theorem not_popped (distinct : s.ids.Nodup) {task : Task} (out : task ∈ s.removed) :
    task.id ∉ s.pops op := by
  intro popped
  cases op with
  | pop =>
    cases first : s.queue.pop? with
    | none => simp [pops, first] at popped
    | some found =>
      obtain ⟨head, rest⟩ := found
      have same : task.id = head.id := by simpa [pops, first] using popped
      have queued : task.id ∈ s.queue.entries.map (·.id) := by
        simp [entries_of_pop? first, same]
      have gone : task.id ∈ s.removed.map (·.id) := List.mem_map.mpr ⟨task, out, rfl⟩
      have once := List.nodup_iff_count_le_one.mp distinct task.id
      have here := List.count_pos_iff.mpr queued
      have there := List.count_pos_iff.mpr gone
      rw [count_ids] at once
      omega
  | push | work | giveBack | cancel => cases popped

theorem never_popped (run : Run past s) (distinct : (past.pushed.map (·.id)).Nodup)
    {before after : History} {t : InUse}
    (happened : past = before ++ (t, .cancel key) :: after)
    {task : Task} (taken : task ∈ (t.queue.cancel key).1.removed) :
    task ∈ s.removed ∧ task.id ∉ History.popped after := by
  -- The induction is on the run; what comes last is either the cancellation or something after it.
  induction run generalizing after with
  | new => simp at happened
  | @step past s s' op run next ih =>
    rw [History.pushed_concat, List.map_append] at distinct
    have earlier := (List.nodup_append.mp distinct).1
    rcases List.eq_nil_or_concat after with rfl | ⟨others, last, rfl⟩
    · obtain ⟨rfl, same⟩ := List.append_inj' happened rfl
      obtain ⟨rfl, rfl⟩ := Prod.mk.inj (List.cons.inj same).1
      cases next
      exact ⟨List.mem_append_right _ taken, List.not_mem_nil⟩
    · rw [List.concat_eq_append, ← List.cons_append, ← List.append_assoc] at happened
      obtain ⟨past_eq, last_eq⟩ := List.append_inj' happened rfl
      obtain rfl := (List.cons.inj last_eq).1
      obtain ⟨out, quiet⟩ := ih earlier past_eq
      refine ⟨removed_of_step next out, ?_⟩
      rw [List.concat_eq_append, History.popped_concat, List.mem_append, not_or]
      exact ⟨quiet, not_popped ((run_ids run).nodup_iff.mpr earlier) out⟩

end InUse

/-- In every state of a run the active tasks are those in flight, each once, under its id and its key. A
cancellation sets the mark of the tasks in flight that have its key, and of no others; it takes the
pending tasks with its key out of the queue, in their order and ended as canceled, and keeps the rest of
the queue as it is; it finds something just when there is such a task. What has been taken out is never
popped after that. Ids are given out once. -/
theorem cancel_is_exact {past : History} {s : InUse} (run : Run past s)
    (distinct : (past.pushed.map (·.id)).Nodup) :
    s.queue.active.Perm (s.flying.map fun task => (task.id, task.key)) ∧
    (s.queue.active.map (·.1)).Nodup ∧
    (∀ key,
      (s.queue.cancel key).1.signaled.length = (s.flying.filter (·.key = key)).length ∧
      (s.cancel key).flying =
        s.flying.map (fun task => if task.key = key then task.askCancel else task) ∧
      (s.queue.cancel key).1.removed.map Except.ok =
        (s.queue.entries.filter fun task => task.status = .pending ∧ task.key = key).map
          (fun task => task.askCancel.advance .canceled) ∧
      (s.queue.cancel key).2.entries =
        s.queue.entries.filter (fun task => ¬ (task.status = .pending ∧ task.key = key)) ∧
      (s.queue.cancel key).2.active = s.queue.active ∧
      ((s.queue.cancel key).1.found = true ↔ ∃ task, task.key = key ∧
        (task ∈ s.flying ∨ task ∈ s.queue.entries ∧ task.status = .pending))) ∧
    ∀ (before : History) (t : InUse) (key : Key) (after : History),
      past = before ++ (t, .cancel key) :: after →
        ∀ task ∈ (t.queue.cancel key).1.removed, task.id ∉ History.popped after := by
  have active := InUse.run_active run distinct
  have unique := InUse.flying_nodup ((InUse.run_ids run).nodup_iff.mpr distinct)
  refine ⟨active, ?_, fun key => ⟨?_, InUse.cancel_flying active unique key, ?_, ?_, rfl,
    InUse.found_iff active key⟩, fun before t key after happened task taken =>
      (InUse.never_popped run distinct happened taken).2⟩
  · have ids := active.map (·.1)
    rw [List.map_map] at ids
    exact ids.nodup_iff.mpr unique
  · rw [(InUse.signaled_perm active key).length_eq, List.length_map]
  · have meant : s.queue.entries.filter (fun task => task.status = .pending ∧ task.key = key) =
        s.queue.entries.filter (isMeant key) :=
      List.filter_congr fun task _ => (isMeant_eq key task).symm
    rw [meant, Queue.cancel, List.map_map]
    refine List.map_congr_left fun task has => ?_
    have pending := (isMeant_iff.mp (List.mem_filter.mp has).2).1
    simp [Task.advance, Task.askCancel, pending, Status.canBecome, Status.isTerminal]
  · exact List.filter_congr fun task _ => by rw [isMeant_eq, decide_not]

/-- A task for the same post as others. -/
def namesake (id : TaskId) : Task :=
  .new id (.message ⟨"doc", 1, "a.bin"⟩ 5 7) "mem" 1 ""

/-- Of three tasks with one key the first is in flight when they are canceled, and the others wait. -/
theorem cancel_is_exact_of_namesakes : ∃ past s, Run past s ∧
    past.pushed = [namesake 1, namesake 2, namesake 3] ∧ (past.pushed.map (·.id)).Nodup ∧
    s.queue.active.Perm [(1, (namesake 1).key)] ∧
    (s.queue.cancel (namesake 1).key).1.signaled.length = 1 ∧
    (s.cancel (namesake 1).key).flying = [(namesake 1).askCancel] ∧
    (s.cancel (namesake 1).key).removed.map (·.id) = [2, 3] := by
  have pending (id : TaskId) : (namesake id).status = .pending := rfl
  have run := Run.new
    |>.step (.push (pending 1))
    |>.step (.push (pending 2))
    |>.step (.push (pending 3))
    |>.step (.takeOff rfl (pending 1))
  have distinct : ([namesake 1, namesake 2, namesake 3].map (·.id)).Nodup := by decide
  obtain ⟨active, -, cancels, -⟩ := cancel_is_exact run distinct
  obtain ⟨signaled, flying, -⟩ := cancels (namesake 1).key
  exact ⟨_, _, run, rfl, distinct, active, signaled, flying, rfl⟩

end Courier.Queue
