import Courier.Proofs.Scheduler.Outcomes
import Courier.Proofs.Transfer.Cancellation

/-! What becomes of a task that is canceled. Its transfer begins no fetch and no save any more, and
the scheduler notifies it as canceled unless a save that had begun has come through; it is never
notified as failed. -/
namespace Courier.Scheduler

open Transfer (Saved)

/-- The transfer of a task that a worker had: what was asked and answered, and the cancellation when it
began and when it ended. `asked` is what the scheduler finds when it looks after that. -/
structure Transferred (engine : Engine) (held left : Task) (result : Except TransferError Unit)
    (t : List Exchange) (first last : Token) (asked : Bool) : Prop where
  ran : ∃ task, (Transfer.run engine (marked held first.asked)).Trace t (task, .ended result) ∧
    left = marked task asked
  follows : Answering.Follows Token.answers first t last
  early : first.late = []
  found : last.asked = true ∨ held.canceled = true → asked = true

/-- Whether an event that ends the transfer of a message's task comes from such a transfer. -/
def Genuine (engine : Engine) (s : State) : Event → Prop
  | .finish index left result => ∀ held file chat post, s.workers[index]? = some (.busy held) →
      held.origin = .message file chat post →
      ∃ t first last asked, Transferred engine held left result t first last asked
  | _ => True

/-- A run in which only transfers end that have been. -/
structure GenuineRun (engine : Engine) (slots : Nat) (past : History) (s : State) : Prop where
  run : Run slots past s
  genuine : ∀ x ∈ past, Genuine engine x.1 x.2

theorem GenuineRun.step {engine : Engine} {slots : Nat} {past : History} {s s' : State}
    (so : GenuineRun engine slots past s) (event : Event) (happens : s.step? event = some s')
    (genuine : Genuine engine s event) : GenuineRun engine slots (past ++ [(s, event)]) s' where
  run := so.run.step event happens
  genuine := by
    intro x hx
    rcases List.mem_append.mp hx with hx | hx
    · exact so.genuine x hx
    · rw [List.mem_singleton.mp hx]
      exact genuine

/-- How a notification goes with the end of the transfer. -/
structure Outcome (result : Except TransferError Unit) (t : List Exchange) (asked : Bool)
    (status : Status) (error : Option String) : Prop where
  terminal : status.isTerminal = true
  succeeded : status = .succeeded ↔ result = .ok ()
  canceled : asked = true → result ≠ .ok () → status = .canceled
  cause : status = .canceled → asked = true ∨ ∃ x ∈ t, SaysCanceled x
  failed : status = .failed → ∃ e, result = .error e ∧ error = some e.message
  silent : status ≠ .failed → error = none

theorem ended_ok {task : Task} (pending : task.status = .pending) :
    State.ended task (.ok ()) = { task with status := .succeeded } := by
  simp [State.ended, Task.advance, Status.canBecome, pending, Status.isTerminal, Except.toOption]

theorem ended_error {task : Task} (pending : task.status = .pending) (e : TransferError) :
    State.ended task (.error e) =
      if e.isCanceled || task.canceled then { task with status := .canceled }
      else { task with status := .failed, error := some e.message } := by
  unfold State.ended
  dsimp only
  split <;>
    simp [Task.fail, Task.advance, Status.canBecome, pending, Status.isTerminal, Except.toOption,
      Except.map]

theorem outcome_of_ended {task : Task} {result : Except TransferError Unit} {t : List Exchange}
    (pending : task.status = .pending) (clean : task.error = none)
    (cause : TransferCanceled result → task.canceled = true ∨ ∃ x ∈ t, SaysCanceled x) :
    Outcome result t task.canceled (State.ended task result).status
      (State.ended task result).error := by
  cases result with
  | ok =>
    rw [ended_ok pending]
    exact ⟨rfl, by simp, by simp, by simp, by simp, fun _ => clean⟩
  | error e =>
    rw [ended_error pending e]
    by_cases stops : (e.isCanceled || task.canceled) = true
    · rw [if_pos stops]
      refine ⟨rfl, by simp, by simp, fun _ => ?_, by simp, fun _ => clean⟩
      rcases Bool.or_eq_true_iff.mp stops with canceled | asked
      · exact cause canceled
      · exact Or.inl asked
    · rw [if_neg stops]
      refine ⟨rfl, by simp, fun asked => ?_, by simp, by simp, by simp⟩
      rw [asked, Bool.or_true] at stops
      contradiction

theorem Transferred.outcome {engine : Engine} {held left : Task} {asked : Bool}
    {result : Except TransferError Unit} {t : List Exchange} {first last : Token} {file : RemoteFile}
    {chat post : Int} (transferred : Transferred engine held left result t first last asked)
    (message : held.origin = .message file chat post) (pending : held.status = .pending)
    (clean : held.error = none) :
    last.late = [] ∧ Outcome result t asked
      (State.ended (marked left (held.canceled || left.canceled)) result).status
      (State.ended (marked left (held.canceled || left.canceled)) result).error := by
  obtain ⟨task, ran, rfl⟩ := transferred.ran
  have origin : (marked held first.asked).origin = .message file chat post := message
  have heeded := Transfer.run_heeds engine origin first t _ last trivial ran transferred.follows
  obtain ⟨_, -, ⟨-, status, error⟩, -⟩ := Transfer.run_ends origin ran
  -- The look finds a cancellation that any worker's task has been told of.
  have look : (held.canceled || asked) = asked := by
    cases h : held.canceled with
    | false => rfl
    | true => rw [transferred.found (Or.inr h), Bool.or_true]
  have left : marked (marked task asked) (held.canceled || asked) = marked task asked := by
    rw [look]
    rfl
  have pending' : (marked task asked).status = .pending := status.trans pending
  have clean' : (marked task asked).error = none := error.trans clean
  refine ⟨heeded.late.trans transferred.early, ?_⟩
  rw [show (marked task asked).canceled = asked from rfl, left]
  exact outcome_of_ended pending' clean' fun canceled =>
    (heeded.cause canceled).imp_left fun h => transferred.found (Or.inl h)

/-- What has made a notification of a task what it is: a cancellation that took the task out of the
queue, or a transfer that has ended. -/
inductive Explained (engine : Engine) (past : History) (task : Task) (report : Report) : Prop where
  | withdrawn (gone : task.id ∈ past.withdrawn) (canceled : report.status = .canceled)
      (silent : report.error = none)
  | transferred {s : State} {index : Nat} {held left : Task} {result : Except TransferError Unit}
      {t : List Exchange} {first last : Token} {asked : Bool}
      (happened : (s, .finish index left result) ∈ past)
      (had : s.workers[index]? = some (.busy held)) (same : held.id = task.id)
      (ran : Transferred engine held left result t first last asked) (late : last.late = [])
      (outcome : Outcome result t asked report.status report.error)

theorem GenuineRun.explained {engine : Engine} {slots : Nat} {past : History} {s : State}
    {task : Task} {file : RemoteFile} {chat post : Int} (so : GenuineRun engine slots past s)
    (distinct : (past.submitted.map (·.id)).Nodup)
    (fresh : ∀ task ∈ past.submitted, task.status = .pending ∧ task.error = none)
    (submitted : task ∈ past.submitted) (message : task.origin = .message file chat post) :
    ∀ report ∈ s.reports, report.summary.id = task.id → Explained engine past task report := by
  intro report hr hid
  -- What the report tells of a task of this id it tells of this task, since no two ids are the same.
  have only : ∀ sub ∈ past.submitted, sub.id = task.id → sub = task := fun sub hs hid =>
    List.inj_on_of_nodup_map distinct hs submitted hid
  have terminal := so.run.accounted.settled.reported report hr
  obtain ⟨told, fate, rfl⟩ := so.run.fated.reports report hr
  cases fate with
  | waits canceled hs =>
    rw [show (marked _ canceled).status = .pending from (fresh _ hs).1] at terminal
    contradiction
  | withdrawn canceled hs gone =>
    obtain rfl := only _ hs hid
    exact .withdrawn gone rfl (fresh _ submitted).2
  | ended canceled happened had same hs kept =>
    have held_id := congrArg Task.id kept
    have ended := (ended_id _ _).symm.trans hid
    obtain rfl := only _ hs (held_id.symm.trans (same.trans ended))
    have origin := (congrArg Task.origin kept).trans message
    have pending := (congrArg Task.status kept).trans (fresh _ hs).1
    have clean := (congrArg Task.error kept).trans (fresh _ hs).2
    obtain ⟨t, first, last, asked, ran⟩ := so.genuine _ happened _ file chat post had origin
    obtain ⟨late, outcome⟩ := ran.outcome origin pending clean
    exact .transferred happened had held_id ran late outcome

/-- A transfer of a message comes to a result whatever it is answered. Once its cancellation has been
asked for no fetch and no save begins; if that was before its start it does nothing at all. It
succeeds only by a save that comes through, and it ends as canceled only if it was canceled or a
source or a storage said that it was.

Accordingly the scheduler notifies a task that was withdrawn from the queue, and is not transferred
then, as canceled. It notifies any other one once its transfer has ended: as succeeded if the transfer
was, with the text of the error if the task failed, and never as failed if it was canceled. -/
theorem cancellation_is_no_failure (engine : Engine) :
    (∀ task file chat post, task.origin = .message file chat post → ∀ k : Token,
      (∃ t task' result k', (Transfer.run engine task).Trace t (task', .ended result) ∧
        Answering.Follows Token.answers k t k') ∧
      ∀ t task' stage k', (Transfer.run engine task).Trace t (task', stage) →
        Answering.Follows Token.answers k t k' → ∃ result, stage = .ended result ∧
          k'.late = k.late ∧
          (k.asked = true → t = [⟨.canceled, true⟩] ∧ result = .error .canceled) ∧
          (result = .ok () → Saved t) ∧
          (TransferCanceled result → k'.asked = true ∨ ∃ x ∈ t, SaysCanceled x)) ∧
    ∀ slots past s, GenuineRun engine slots past s → (past.submitted.map (·.id)).Nodup →
      (∀ task ∈ past.submitted, task.status = .pending ∧ task.error = none) →
      ∀ task ∈ past.submitted, ∀ file chat post, task.origin = .message file chat post →
        past.begun.count task.id + past.withdrawn.count task.id ≤ 1 ∧
        past.finished.count task.id ≤ past.begun.count task.id ∧
        ∀ report ∈ s.reports, report.summary.id = task.id →
          Explained engine past task report := by
  constructor
  · intro task file chat post message k
    constructor
    · obtain ⟨t, ⟨task', stage⟩, k', ran, follows⟩ :=
        Job.exists_trace Token.exists_answer (Transfer.run engine task) k
      obtain ⟨result, rfl, -⟩ := Transfer.run_ends message ran
      exact ⟨t, task', result, k', ran, follows⟩
    · intro t task' stage k' ran follows
      obtain ⟨result, rfl, -, saved⟩ := Transfer.run_ends message ran
      have heeded := Transfer.run_heeds engine message k t _ k' trivial ran follows
      refine ⟨result, rfl, heeded.late, fun asked => ?_, saved, heeded.cause⟩
      obtain ⟨only, ended⟩ := Transfer.run_of_asked asked ran follows
      exact ⟨only, Stage.ended.inj ended⟩
  · intro slots past s so distinct fresh task submitted file chat post message
    have counted := so.run.counted task.id
    have given := List.nodup_iff_count_le_one.mp distinct task.id
    have once := counted.once
    have ends := counted.ends
    exact ⟨by omega, by omega, so.explained distinct fresh submitted message⟩

open Transfer (attachment oneShelf)

theorem transferred_of_asked (engine : Engine) (held : Task) :
    Transferred engine held (marked held true) (.error .canceled) [⟨.canceled, true⟩] ⟨true, []⟩
      ⟨true, []⟩ true where
  ran := by
    refine ⟨marked held true, ?_, rfl⟩
    simp only [Transfer.run, Job.bind_eq, Job.request, Job.ask_bind, Job.done_bind, Job.trace_ask]
    exact ⟨true, [], rfl, .done _⟩
  follows := ⟨⟨true, []⟩, ⟨rfl, rfl⟩, rfl⟩
  early := rfl
  found _ := rfl

/-- A task is canceled when a worker has just taken it. -/
theorem cancellation_is_no_failure_in_flight : ∃ past s, GenuineRun oneShelf 1 past s ∧
    past.submitted = [attachment] ∧ (past.submitted.map (·.id)).Nodup ∧
    (∀ task ∈ past.submitted, task.status = .pending ∧ task.error = none) ∧
    s.reports = [⟨attachment.summary, .canceled, none⟩] ∧
    ∀ report ∈ s.reports, Explained oneShelf past attachment report := by
  have ended : ∀ held file chat post, some (Worker.busy attachment.askCancel) = some (.busy held) →
      held.origin = .message file chat post → ∃ t first last asked,
        Transferred oneShelf held (marked attachment true) (.error .canceled) t first last asked := by
    intro held file chat post had _
    obtain rfl := Worker.busy.inj (Option.some.inj had)
    exact ⟨_, _, _, _, transferred_of_asked oneShelf attachment.askCancel⟩
  have so := (⟨.init, by simp⟩ : GenuineRun oneShelf 1 [] (.new 1))
    |>.step (.submit attachment) rfl trivial
    |>.step .start rfl trivial
    |>.step (.acquire 0) rfl trivial
    |>.step (.take 0) rfl trivial
    |>.step (.cancel attachment.key) rfl trivial
    |>.step (.finish 0 (marked attachment true) (.error .canceled)) rfl ended
    |>.step (.putBack 0) rfl trivial
    |>.step (.release 0) rfl trivial
    |>.step (.acquire 0) rfl trivial
    |>.step (.take 0) rfl trivial
    |>.step (.notify 0) rfl trivial
  have distinct : ([attachment].map (·.id)).Nodup := by decide
  have fresh : ∀ task ∈ [attachment], task.status = .pending ∧ task.error = none := by
    intro task ht
    rw [List.mem_singleton.mp ht]
    exact ⟨rfl, rfl⟩
  refine ⟨_, _, so, rfl, distinct, fresh, rfl, fun report hr => ?_⟩
  have explained := ((cancellation_is_no_failure oneShelf).2 1 _ _ so distinct fresh attachment
    (List.mem_singleton.mpr rfl) _ _ _ rfl).2.2
  exact explained report hr (by rw [List.mem_singleton.mp hr]; rfl)

end Courier.Scheduler
