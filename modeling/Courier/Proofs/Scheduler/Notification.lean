import Courier.Proofs.Scheduler.Places

/-! Every submitted task gets one terminal notification: in each state of a run it is in one place,
and the count of outstanding tasks is that of the tasks without a notification. -/
namespace Courier.Scheduler

/-- Where all tasks of a history are in the state that it has led to. -/
structure Accounted (past : History) (s : State) : Prop where
  settled : s.Settled
  places : ∀ id, s.places.count id = (past.submitted.map (·.id)).count id
  outstanding : s.outstanding + s.reports.length = past.submitted.length
  begun : ∀ id, past.begun.count id + s.waiting.count id ≤ (past.submitted.map (·.id)).count id

namespace Accounted

variable {past : History} {s s' : State} {event : Event}

theorem new (slots : Nat) : Accounted [] (.new slots) where
  settled := ⟨by simp [State.new], by simp [State.new], by simp [State.new]⟩
  places _ := rfl
  outstanding := rfl
  begun _ := Nat.le_refl _

theorem places_length (acc : Accounted past s) : s.places.length = past.submitted.length := by
  rw [(List.perm_iff_count.mpr acc.places).length_eq, List.length_map]

/-- Who notifies a task still has it, so that it is outstanding. -/
theorem outstanding_pos (acc : Accounted past s) {task : Task}
    (had : task ∈ s.removed ∨ .busy task ∈ s.workers) : 0 < s.outstanding := by
  have hl := acc.places_length
  have ho := acc.outstanding
  have hm : task.id ∈ s.removed.map (·.id) ∨ task.id ∈ s.held := by
    refine had.imp (fun hm => List.mem_map.mpr ⟨task, hm, rfl⟩) fun hw => ?_
    exact List.mem_flatMap.mpr ⟨_, hw, List.mem_singleton.mpr rfl⟩
  have hp : 0 < (s.removed.map (·.id)).length ∨ 0 < s.held.length :=
    hm.imp List.length_pos_of_mem List.length_pos_of_mem
  simp only [State.places, State.notified, List.length_append, List.length_map] at hl hp
  omega

theorem step (acc : Accounted past s) (h : s.step? event = some s') :
    Accounted (past ++ [(s, event)]) s' where
  settled := acc.settled.step h
  places id := by
    rw [State.step_places_count h, acc.places, History.submitted_concat, List.map_append,
      List.count_append]
  outstanding := by
    have ho := acc.outstanding
    rw [History.submitted_concat, List.length_append]
    obtain ⟨hr, he⟩ | ⟨task, ht, hs, hr, he⟩ := State.step_reports h
    · rw [hr, he]
      omega
    · have hp := acc.outstanding_pos (ht.imp_right And.left)
      rw [hr, he, hs, List.length_append, List.length_singleton, List.length_nil]
      omega
  begun id := by
    have hb := acc.begun id
    have hw := State.step_waiting_count acc.settled h id
    rw [History.begun_concat, History.submitted_concat, List.map_append, List.count_append,
      List.count_append]
    omega

end Accounted

theorem Run.accounted {slots : Nat} {past : History} {s : State} (run : Run slots past s) :
    Accounted past s := by
  induction run with
  | init => exact .new slots
  | step event _ happens ih => exact ih.step happens

theorem Accounted.notified_nodup {past : History} {s : State} (acc : Accounted past s)
    (distinct : (past.submitted.map (·.id)).Nodup) : s.notified.Nodup := by
  rw [List.nodup_iff_count_le_one]
  intro id
  have hp := acc.places id
  have hd := List.nodup_iff_count_le_one.mp distinct id
  rw [State.places_count] at hp
  omega

theorem Accounted.outstanding_eq {past : History} {s : State} (acc : Accounted past s)
    (distinct : (past.submitted.map (·.id)).Nodup) :
    s.outstanding = (past.submitted.filter fun task => task.id ∉ s.notified).length := by
  have hn := acc.notified_nodup distinct
  have hm : ((past.submitted.filter fun task => task.id ∈ s.notified).map (·.id)).Perm
      s.notified := by
    refine (List.perm_ext_iff_of_nodup ((List.filter_sublist.map _).nodup distinct) hn).mpr ?_
    intro id
    constructor
    · intro h
      obtain ⟨task, ht, rfl⟩ := List.mem_map.mp h
      simpa using (List.mem_filter.mp ht).2
    · intro h
      have hp : 0 < (past.submitted.map (·.id)).count id := by
        rw [← acc.places]
        exact List.count_pos_iff.mpr (List.mem_append_right _ h)
      obtain ⟨task, ht, rfl⟩ := List.mem_map.mp (List.count_pos_iff.mp hp)
      exact List.mem_map.mpr ⟨task, List.mem_filter.mpr ⟨ht, by simpa using h⟩, rfl⟩
  have hl := hm.length_eq
  have ho := acc.outstanding
  have hs := List.length_eq_length_filter_add (l := past.submitted)
    fun task => decide (task.id ∈ s.notified)
  simp only [State.notified, List.length_map] at hl
  simp only [decide_not]
  simp only [State.notified] at hs ⊢
  omega

/-- In every state of every run each submitted task is in one place, has been transferred and
notified at most once, and is outstanding until it is notified; so nobody is drained before all are
notified. Ids are given out once. -/
theorem exactly_one_notification {slots : Nat} {past : History} {s : State}
    (run : Run slots past s) (distinct : (past.submitted.map (·.id)).Nodup) :
    (∀ task ∈ past.submitted, s.places.count task.id = 1 ∧ past.begun.count task.id ≤ 1 ∧
      s.notified.count task.id ≤ 1) ∧
    (∀ id ∈ s.places, ∃ task ∈ past.submitted, task.id = id) ∧
    (∀ report ∈ s.reports, report.status.isTerminal = true) ∧
    s.outstanding = (past.submitted.filter fun task => task.id ∉ s.notified).length ∧
    (∀ event s', s.step? event = some s' → s.reports.length < s'.reports.length →
      s'.outstanding + 1 = s.outstanding) ∧
    (s.isDrained = true ↔ ∀ task ∈ past.submitted, s.notified.count task.id = 1) := by
  have acc := run.accounted
  have once : ∀ task ∈ past.submitted, s.places.count task.id = 1 := by
    intro task ht
    rw [acc.places]
    exact List.count_eq_one_of_mem distinct (List.mem_map.mpr ⟨task, ht, rfl⟩)
  have atMost : ∀ task ∈ past.submitted, s.notified.count task.id ≤ 1 := by
    intro task ht
    have hp := once task ht
    rw [State.places_count] at hp
    omega
  have outstanding := acc.outstanding_eq distinct
  refine ⟨fun task ht => ⟨once task ht, ?_, atMost task ht⟩, ?_, acc.settled.reported,
    outstanding, ?_, ?_⟩
  · have hb := acc.begun task.id
    have hd := List.nodup_iff_count_le_one.mp distinct task.id
    omega
  · intro id hm
    have hp : 0 < (past.submitted.map (·.id)).count id := by
      rw [← acc.places]
      exact List.count_pos_iff.mpr hm
    exact List.mem_map.mp (List.count_pos_iff.mp hp)
  · intro event s' h hl
    obtain ⟨hr, _⟩ | ⟨task, ht, _, _, he⟩ := State.step_reports h
    · rw [hr] at hl
      omega
    · have hp := acc.outstanding_pos (ht.imp_right And.left)
      omega
  · rw [State.isDrained, beq_iff_eq, outstanding, List.length_eq_zero_iff, List.filter_eq_nil_iff]
    refine forall₂_congr fun task ht => ?_
    have hc := atMost task ht
    rw [decide_eq_true_eq, not_not, ← List.count_pos_iff]
    omega

/-- A task that asks for the same file as others of its kind. -/
def twin (id : TaskId) : Task :=
  .new id (.message ⟨"doc", 1, "a.bin"⟩ 5 7) "mem" 1 ""

/-- Of two tasks with one key the first is canceled in flight and the second in the queue. -/
theorem exactly_one_notification_of_twins : ∃ past s, Run 1 past s ∧
    past.submitted = [twin 1, twin 2] ∧ (past.submitted.map (·.id)).Nodup ∧
    past.begun = [1] ∧ s.outstanding = 0 ∧
    ∀ task ∈ past.submitted, s.notified.count task.id = 1 := by
  have run := (Run.init : Run 1 [] (.new 1))
    |>.step (.submit (twin 1)) rfl
    |>.step (.submit (twin 2)) rfl
    |>.step .start rfl
    |>.step (.acquire 0) rfl
    |>.step (.take 0) rfl
    |>.step (.cancel (twin 1).key) rfl
    |>.step (.finish 0 (twin 1) (.error .canceled)) rfl
    |>.step (.putBack 0) rfl
    |>.step (.release 0) rfl
    |>.step (.acknowledge 0) rfl
    |>.step (.acquire 0) rfl
    |>.step (.take 0) rfl
    |>.step (.notify 0) rfl
  have distinct : ([twin 1, twin 2].map (·.id)).Nodup := by decide
  exact ⟨_, _, run, rfl, distinct, rfl, rfl,
    (exactly_one_notification run distinct).2.2.2.2.2.mp rfl⟩

end Courier.Scheduler
