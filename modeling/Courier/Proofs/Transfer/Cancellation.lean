import Courier.Proofs.Job.Cancellation
import Courier.Proofs.Transfer.Delivery

/-! Transfers that are canceled. No fetch and no save begins once the cancellation has been asked for,
and a transfer that stops as canceled has been canceled or has met something that was. -/
namespace Courier

namespace Reader

/-- What a reader stops for, whatever it is then. -/
abbrev Canceled {α : Type} (result : Except TransferError α × Reader) : Prop :=
  TransferCanceled result.1

theorem fetchNext_heeds (r : Reader) : r.fetchNext.Heeds Canceled := by
  unfold fetchNext
  split
  · exact Job.heedsFrom_done id
  · next offset _ =>
    refine (fetchWithRetry_heeds r.policy (Job.request_heedsUnasked (by simp))).bind
      fun outcome => ?_
    cases outcome with
    | ok chunk => exact Job.heedsFrom_done And.left
    | error e => exact Job.heedsFrom_done fun ⟨stops, goesOn⟩ => goesOn stops

theorem refillAnew_heeds (r : Reader) : r.refillAnew.Heeds Canceled := by
  refine r.restart.fetchNext_heeds.bind fun (outcome, r) => ?_
  cases outcome with
  | error e => exact Job.heedsFrom_done fun ⟨stops, goesOn⟩ => goesOn stops
  | ok part =>
    dsimp only
    split
    · exact Job.heedsFrom_done And.left
    · exact Job.heedsFrom_done fun ⟨stops, _⟩ => Bool.false_ne_true stops

theorem refill_heeds (r : Reader) : r.refill.Heeds Canceled := by
  refine r.fetchNext_heeds.bind fun (outcome, r) => ?_
  cases outcome with
  | error e => exact Job.heedsFrom_done fun ⟨stops, goesOn⟩ => goesOn stops
  | ok part =>
    dsimp only
    split
    · exact Job.heedsFrom_done And.left
    · exact (refillAnew_heeds _).imp fun _ => And.left

theorem report_heeds (r : Reader) : r.report.Heeds fun _ => False := by
  unfold report
  split
  · exact Job.heedsFrom_done id
  · dsimp only
    split
    · exact (Job.request_heeds (by simp) rfl).bind fun _ => Job.heedsFrom_done And.left
    · exact Job.heedsFrom_done id

theorem consume_heeds (r : Reader) (room : Nat) : (r.consume room).Heeds Canceled :=
  (report_heeds _).bind fun _ => Job.heedsFrom_done And.left

theorem read_heeds (r : Reader) (room : Nat) : (r.read room).Heeds Canceled := by
  unfold read
  split
  · exact Job.heedsFrom_done id
  · split
    · exact consume_heeds r room
    · refine r.refill_heeds.bind fun (outcome, r) => ?_
      cases outcome with
      | error e => exact Job.heedsFrom_done fun ⟨stops, goesOn⟩ => goesOn stops
      | ok => exact (consume_heeds r room).imp fun _ => And.left

end Reader

namespace Transfer

theorem copyLoop_heeds (path : String) (r : Reader) (u : Unit) (written reads : Nat) :
    (Reader.copyLoop (fileSink path) r u written reads).Heeds fun p => TransferCanceled p.1 := by
  -- Between two reads bytes are written to a file, which is neither a fetch nor a save.
  induction reads generalizing r written with
  | zero => exact Job.heedsFrom_done id
  | succ reads ih =>
    refine (r.read_heeds Reader.copyRoom).bind fun (outcome, r) => ?_
    cases outcome with
    | error e => exact Job.heedsFrom_done fun ⟨stops, goesOn⟩ => goesOn stops
    | ok bytes =>
      dsimp only
      split
      · exact Job.heedsFrom_done And.left
      · refine (Job.request_heeds (by simp) rfl).bind fun reply => ?_
        cases reply with
        | error e => exact Job.heedsFrom_done fun ⟨⟨stops, _⟩, _⟩ => Bool.false_ne_true stops
        | ok => exact (ih _ _).imp fun _ h => h.1.1

theorem download_heeds (engine : Engine) (task : Task) (file : RemoteFile) (cachePath : String) :
    (download engine task file cachePath).Heeds TransferCanceled := by
  refine (Job.request_heeds (by simp) rfl).bind fun reply => ?_
  cases reply with
  | error e => exact Job.heedsFrom_done fun ⟨stops, _⟩ => Bool.false_ne_true stops
  | ok =>
    refine (copyLoop_heeds cachePath _ () 0 _).bind fun (outcome, _) => ?_
    refine Job.heedsFrom_done fun ⟨⟨stops, _⟩, goesOn⟩ => goesOn ?_
    cases outcome with
    | ok n => exact stops
    | error e => exact stops

theorem downloadInline_heeds (engine : Engine) (task : Task) (file : RemoteFile)
    (cachePath : String) : (downloadInline engine task file cachePath).Heeds TransferCanceled := by
  refine (fetchWithRetry_heeds engine.policy (Job.request_heedsUnasked (by simp))).bind
    fun outcome => ?_
  cases outcome with
  | error e => exact Job.heedsFrom_done fun ⟨stops, goesOn⟩ => goesOn stops
  | ok bytes =>
    refine (Job.request_heeds (by simp) rfl).bind fun reply => ?_
    cases reply with
    | error e => exact Job.heedsFrom_done fun ⟨⟨stops, _⟩, _⟩ => Bool.false_ne_true stops
    | ok => exact (Job.request_heeds (by simp) rfl).bind fun _ => Job.heedsFrom_done fun h => h.1.1.1

theorem fetchFile_heeds (engine : Engine) (task : Task) (file : RemoteFile) (cachePath : String) :
    (fetchFile engine task file cachePath).Heeds TransferCanceled := by
  unfold fetchFile
  split
  · exact downloadInline_heeds engine task file cachePath
  · exact download_heeds engine task file cachePath

theorem missingExtension_heeds (sniff : Bytes → Option String) (fileName cachePath : String) :
    (missingExtension sniff fileName cachePath).Heeds fun _ => False := by
  unfold missingExtension
  split
  · exact Job.heedsFrom_done id
  · refine (Job.request_heeds (by simp) rfl).bind fun reply => ?_
    cases reply with
    | ok head => exact Job.heedsFrom_done And.left
    | error e => exact Job.heedsFrom_done And.left

theorem persist_heeds (engine : Engine) (task : Task) (medium : Medium) (cachePath : String) :
    (persist engine task medium cachePath).Heeds fun p => TransferCanceled p.2 := by
  refine (missingExtension_heeds engine.libraries.sniff task.fileName cachePath).bind fun extension => ?_
  exact (saveWithRetry_heeds engine.policy medium cachePath _).bind fun _ =>
    Job.heedsFrom_done fun ⟨⟨stops, _⟩, goesOn⟩ => goesOn stops

theorem carry_heeds (engine : Engine) (task : Task) (file : RemoteFile) (medium : Medium)
    (cachePath : String) :
    (carry engine task file medium cachePath).Heeds fun p => TransferCanceled p.2 := by
  refine (fetchFile_heeds engine task file cachePath).bind fun outcome => ?_
  cases outcome with
  | error e => exact Job.heedsFrom_done fun ⟨stops, goesOn⟩ => goesOn stops
  | ok => exact (persist_heeds engine task medium cachePath).imp fun _ => And.left

/-- What the stage of a transfer ends with, if it ends as canceled. -/
def StageCanceled : Stage → Prop
  | .ended result => TransferCanceled result
  | .images .. => False

theorem work_heeds (engine : Engine) {task : Task} (medium : Medium) {file : RemoteFile}
    {chat post : Int} (message : task.origin = .message file chat post) :
    (work engine task medium).Heeds fun p => StageCanceled p.2 := by
  refine (Job.request_heeds (by simp) rfl).bind fun reply => ?_
  cases reply with
  | error e => exact Job.heedsFrom_done fun ⟨stops, _⟩ => Bool.false_ne_true stops
  | ok =>
    simp only [message]
    refine (carry_heeds engine task file medium _).bind fun (_, result) => ?_
    exact (Job.request_heeds (by simp) rfl).bind fun _ =>
      Job.heedsFrom_done fun ⟨⟨⟨stops, _⟩, goesOn⟩, _⟩ => goesOn stops

/-- Routing fails for the task's own storage only. -/
theorem get_of_resolve_error {patterns : PatternCompiler} {registry : Registry} {task : Task}
    {t : List Exchange} {e : TransferError} (run : (Router.resolve patterns registry task).Trace t (.error e)) :
    registry.get task.user task.storage = .error e := by
  unfold Router.resolve at run
  cases hg : registry.get task.user task.storage with
  | error own =>
    simp only [hg, Job.pure_eq, Job.trace_done] at run
    rw [Except.error.inj run.2]
  | ok storage =>
    simp only [hg, Job.bind_eq, Job.request, Job.ask_bind, Job.done_bind, Job.trace_ask] at run
    obtain ⟨reply, t, rfl, rest⟩ := run
    rcases reply with e | rules
    · simp at rest
    · dsimp only at rest
      split at rest
      · simp at rest
      · obtain ⟨best, t₁, t₂, rfl, -, rest⟩ := Job.trace_bind.mp rest
        simp at rest

theorem resolve_heeds (patterns : PatternCompiler) (registry : Registry) (task : Task) :
    (Router.resolve patterns registry task).Heeds TransferCanceled := by
  have quiet : (Router.resolve patterns registry task).Asks
      fun r => r ≠ .canceled ∧ r.isCarrying = false :=
    Router.resolve_asks (fun _ => ⟨by simp, rfl⟩) (fun _ _ => ⟨by simp, rfl⟩) registry task
  -- It may fail all the same, but not with the error of a cancellation.
  intro k t result k' start run follows
  refine (Job.heeds_of_asks quiet k t result k' start run follows).imp fun canceled => ?_
  cases result with
  | ok route => exact canceled
  | error e =>
    have hg := get_of_resolve_error run
    unfold Registry.get at hg
    split at hg
    · rw [← Except.error.inj hg] at canceled
      contradiction
    · split at hg
      · contradiction
      · rw [← Except.error.inj hg] at canceled
        contradiction

theorem run_heeds (engine : Engine) {task : Task} {file : RemoteFile} {chat post : Int}
    (message : task.origin = .message file chat post) :
    (run engine task).Heeds fun p => StageCanceled p.2 := by
  -- The look at the start goes for routing, and each fetch and save has a look of its own.
  have resolving : (Router.resolve engine.libraries.patterns engine.registry
      (prepared task)).HeedsUnasked TransferCanceled :=
    (resolve_heeds engine.libraries.patterns engine.registry (prepared task)).of_start
  refine Job.heeds_look (Job.heedsFrom_done id) (resolving.bind fun outcome => ?_)
  cases outcome with
  | error e => exact Job.heedsFrom_done fun ⟨stops, goesOn⟩ => goesOn stops
  | ok route =>
    have origin := show (routed (prepared task) route).origin = _ from (prepared_spec message).1
    exact (work_heeds engine route.storage.medium origin).imp fun _ => And.left

/-- What a transfer leaves of its task as it was. -/
def Keeps (task task' : Task) : Prop :=
  task'.id = task.id ∧ task'.status = task.status ∧ task'.error = task.error

/-- Whether a save has come through. -/
def Saved (t : List Exchange) : Prop :=
  ∃ medium localPath remotePath, (⟨.save medium localPath remotePath, .ok ()⟩ : Exchange) ∈ t

variable {t : List Exchange} {task task' : Task}

theorem saved_last (front : List Exchange) (medium : Medium) (localPath remotePath : String) :
    Saved (front ++ [⟨.save medium localPath remotePath, .ok ()⟩]) :=
  ⟨medium, localPath, remotePath, List.mem_append_right front List.mem_cons_self⟩

theorem Saved.append_left {t₁ : List Exchange} (h : Saved t₁) (t₂ : List Exchange) :
    Saved (t₁ ++ t₂) := by
  obtain ⟨medium, localPath, remotePath, mem⟩ := h
  exact ⟨medium, localPath, remotePath, List.mem_append_left t₂ mem⟩

theorem Saved.append_right {t₂ : List Exchange} (h : Saved t₂) (t₁ : List Exchange) :
    Saved (t₁ ++ t₂) := by
  obtain ⟨medium, localPath, remotePath, mem⟩ := h
  exact ⟨medium, localPath, remotePath, List.mem_append_right t₁ mem⟩

theorem persist_ends {engine : Engine} {medium : Medium} {cachePath : String}
    {result : Except TransferError Unit}
    (run : (persist engine task medium cachePath).Trace t (task', result)) :
    Keeps task task' ∧ (result = .ok () → Saved t) := by
  simp only [persist, Job.bind_eq, Job.trace_bind, Job.pure_eq, Job.trace_done,
    Prod.mk.injEq] at run
  obtain ⟨extension, t₁, _, rfl, -, saved, t₂, _, rfl, saving, rfl, rfl, rfl⟩ := run
  refine ⟨by cases extension <;> exact ⟨rfl, rfl, rfl⟩, ?_⟩
  rintro rfl
  rcases saveWithRetry_trace saving with ⟨front, -, rfl, -⟩ | ⟨e, failed, -⟩
  · exact ((saved_last front ..).append_left []).append_right t₁
  · contradiction

theorem carry_ends {engine : Engine} {file : RemoteFile} {medium : Medium} {cachePath : String}
    {result : Except TransferError Unit}
    (run : (carry engine task file medium cachePath).Trace t (task', result)) :
    Keeps task task' ∧ (result = .ok () → Saved t) := by
  simp only [carry, Job.bind_eq, Job.trace_bind] at run
  obtain ⟨fetched, t₁, t₂, rfl, -, rest⟩ := run
  cases fetched with
  | error e =>
    simp only [Job.pure_eq, Job.trace_done, Prod.mk.injEq] at rest
    obtain ⟨-, rfl, rfl⟩ := rest
    exact ⟨⟨rfl, rfl, rfl⟩, by simp⟩
  | ok =>
    obtain ⟨keeps, saved⟩ := persist_ends rest
    exact ⟨keeps, fun through => (saved through).append_right t₁⟩

theorem Keeps.trans {task'' : Task} (first : Keeps task task') (second : Keeps task' task'') :
    Keeps task task'' :=
  ⟨second.1.trans first.1, second.2.1.trans first.2.1, second.2.2.trans first.2.2⟩

theorem keeps_prepared (task : Task) : Keeps task (prepared task) := by
  have named : Keeps task task.withName := by
    unfold Task.withName
    split
    · split <;> exact ⟨rfl, rfl, rfl⟩
    · exact ⟨rfl, rfl, rfl⟩
  unfold prepared
  dsimp only
  split
  · exact named
  · exact named

/-- The transfer of a message comes to a result of its own, and succeeds by a save. -/
def Ends (task task' : Task) (stage : Stage) (t : List Exchange) : Prop :=
  ∃ result, stage = .ended result ∧ Keeps task task' ∧ (result = .ok () → Saved t)

theorem work_ends {engine : Engine} {medium : Medium} {stage : Stage} {file : RemoteFile}
    {chat post : Int} (message : task.origin = .message file chat post)
    (run : (work engine task medium).Trace t (task', stage)) : Ends task task' stage t := by
  rcases works_of_message message run with ⟨e, rfl, rfl, rfl⟩ | ⟨t₁, result, rfl, rfl, carrying⟩
  · exact ⟨_, rfl, ⟨rfl, rfl, rfl⟩, by simp⟩
  · obtain ⟨keeps, saved⟩ := carry_ends carrying
    exact ⟨result, rfl, keeps, fun through => ((saved through).append_left _).append_right [_]⟩

theorem run_ends {engine : Engine} {stage : Stage} {file : RemoteFile} {chat post : Int}
    (message : task.origin = .message file chat post)
    (ran : (run engine task).Trace t (task', stage)) : Ends task task' stage t := by
  cases runs_of_trace ran with
  | canceled => exact ⟨_, rfl, ⟨rfl, rfl, rfl⟩, by simp⟩
  | unrouted => exact ⟨_, rfl, keeps_prepared task, by simp⟩
  | @working t₁ _ route _ _ _ working =>
    have origin := show (routed (prepared task) route).origin = _ from (prepared_spec message).1
    obtain ⟨result, rfl, keeps, saved⟩ := work_ends origin working
    exact ⟨result, rfl, (keeps_prepared task).trans keeps,
      fun through => ((saved through).append_right t₁).append_right [_]⟩

theorem run_of_asked {engine : Engine} {stage : Stage} {k k' : Token} (asked : k.asked = true)
    (ran : (run engine task).Trace t (task', stage))
    (follows : Answering.Follows Token.answers k t k') :
    t = [⟨.canceled, true⟩] ∧ stage = .ended (.error .canceled) := by
  simp only [run, Job.bind_eq, Job.request, Job.ask_bind, Job.done_bind, Job.trace_ask] at ran
  obtain ⟨canceled, t, rfl, rest⟩ := ran
  obtain ⟨m, ⟨rfl, -⟩, -⟩ := follows
  simp only [asked, if_true, Job.pure_eq, Job.trace_done, Prod.mk.injEq] at rest
  obtain ⟨rfl, -, rfl⟩ := rest
  rw [asked]
  exact ⟨rfl, rfl⟩

end Transfer

end Courier
