import Courier.Proofs.Transfer.Tidy

/-! What a transfer stores. Whichever storage its file is saved to, and however often that fails before, it is
the bytes that have been announced of the object. -/
namespace Courier

open Answering (follows_append)

namespace Setting

/-- How a question can be answered where storages on disk end a save as they can. -/
def delivers (env : Setting) (w : Depot) : (q : Request) → q.Reply → Depot → Prop
  | .save .disk localPath path, reply, w' =>
    w'.written = w.written ∧ ∃ removed, Disk.SaveEnds w.files localPath path removed reply w'.files
  | q, reply, w' => env.answers w q reply w'

/-- What a save that comes through has put where it should: these bytes. A file that is saved onto itself is
lost. -/
def Stores (bytes : Bytes) (w : Depot) : (q : Request) → q.Reply → Depot → Prop
  | .save .disk localPath path, reply, w' =>
    reply = .ok () → w.files.standing localPath ≠ w.files.standing path → w'.files.read path = .ok bytes
  | .save (.backend number) _ path, reply, w' =>
    reply = .ok () → w'.written = w.written ++ [(number, path, bytes)]
  | _, _, _ => True

/-- A world in which nothing but these bytes is stored. -/
def storing (env : Setting) (bytes : Bytes) : Answering Depot := fun w q reply w' =>
  env.delivers w q reply w' ∧ Stores bytes w q reply w'

variable {env : Setting} {w w' : Depot} {t : List Exchange} {bytes : Bytes} {q : Request}
  {reply : q.Reply}

theorem answers_of_delivers (h : env.delivers w q reply w') : env.answers w q reply w' := by
  cases q with
  | save medium localPath path =>
    cases medium with
    | disk => trivial
    | backend number => exact h
  | _ => exact h

theorem follows_answers (follows : Answering.Follows env.delivers w t w') :
    Answering.Follows env.answers w t w' :=
  follows.imp (P := fun _ => True) (fun _ _ => trivial) fun _ _ _ _ _ => answers_of_delivers

theorem exists_delivery (env : Setting) (w : Depot) (q : Request) :
    ∃ reply w', env.delivers w q reply w' := by
  cases q with
  | save medium localPath path =>
    cases medium with
    | disk => exact ⟨.error .canceled, w, rfl, false, .refused .canceled .refl⟩
    | backend number => exact env.exists_answer w _
  | _ => exact env.exists_answer w _

theorem storing_of_saveless (quiet : ∀ x ∈ t, Transfer.isSave x.1 = false)
    (follows : Answering.Follows env.delivers w t w') : Answering.Follows (env.storing bytes) w t w' := by
  refine follows.imp quiet fun w q reply w' quiet h => ⟨h, ?_⟩
  cases q with
  | save => contradiction
  | _ => trivial

/-- Saves of a file that holds some bytes store these, however often it takes. -/
theorem storing_of_saves {medium : Medium} {localPath path : String}
    (saves : ∀ x ∈ t, x.1 = .canceled ∨ x.1 = .save medium localPath path)
    (follows : Answering.Follows env.delivers w t w')
    (read : (medium = .disk → w.files.standing localPath ≠ w.files.standing path) →
      w.files.read localPath = .ok bytes) : Answering.Follows (env.storing bytes) w t w' := by
  induction t generalizing w with
  | nil => exact follows
  | cons x t ih =>
    obtain ⟨q, reply⟩ := x
    obtain ⟨m, step, follows⟩ := follows
    have others := fun x hx => saves x (List.mem_cons_of_mem _ hx)
    rcases saves _ List.mem_cons_self with rfl | rfl
    · obtain rfl : m = w := id step
      exact ⟨m, ⟨step, trivial⟩, ih others follows read⟩
    · cases medium with
      | disk =>
        obtain ⟨-, removed, ends⟩ := id step
        refine ⟨m, ⟨step, ?_⟩, ih others follows fun apart => ?_⟩
        · rintro rfl apart
          exact ends.read_saved apart (read fun _ => apart)
        · -- A save that fails leaves the file that it was to save.
          have home := ends.spares.home
          have apart := apart rfl
          rw [FileTree.standing_congr home, FileTree.standing_congr home] at apart
          exact (ends.spares.beside apart).read (read fun _ => apart)
      | backend number =>
        obtain ⟨files, saved⟩ := id step
        have holds := read nofun
        refine ⟨m, ⟨step, ?_⟩, ih others follows fun _ => files ▸ holds⟩
        rintro rfl
        obtain ⟨⟨_, failed⟩, -⟩ | ⟨-, content, found, written⟩ := saved
        · contradiction
        · rw [holds] at found
          rw [written, Except.ok.inj found]

end Setting

namespace Transfer

variable {engine : Engine} {task task' : Task} {file : RemoteFile} {chat post : Int} {stage : Stage}
  {medium : Medium} {path : String} {t : List Exchange} {env : Setting} {w w' : Depot}

theorem saveWithRetry_storing {policy : RetryPolicy} {localPath remotePath : String} {bytes : Bytes}
    {result : Except TransferError Unit}
    (run : (saveWithRetry policy medium localPath remotePath).Trace t result)
    (follows : Answering.Follows env.delivers w t w') (read : w.files.read localPath = .ok bytes) :
    Answering.Follows (env.storing bytes) w t w' := by
  have asks : (saveWithRetry policy medium localPath remotePath).Asks fun q =>
      q = .canceled ∨ q = .save medium localPath remotePath :=
    saveWithRetry_asks policy (Or.inl rfl) (Or.inr rfl)
  exact Setting.storing_of_saves (asks.forall_mem run) follows fun _ => read

theorem carry_storing {result : Except TransferError Unit}
    (run : (carry engine task file medium path).Trace t (task', result))
    (follows : Answering.Follows env.delivers w t w') :
    Answering.Follows (env.storing (stored (env.objects file.location) file.size)) w t w' := by
  simp only [carry, Job.bind_eq, Job.trace_bind] at run
  obtain ⟨downloaded, t₁, t₂, rfl, downloading, rest⟩ := run
  obtain ⟨m, before, after⟩ := follows_append.mp follows
  have saveless := (fetchFile_asks engine task file (hasDownload_quiet path)).forall_mem downloading
  refine follows_append.mpr ⟨m, Setting.storing_of_saveless saveless before, ?_⟩
  cases downloaded with
  | error e =>
    rw [(Job.trace_done.mp rest).1] at after ⊢
    exact after
  | ok =>
    obtain ⟨-, ⟨-, read⟩ | ⟨e, failed, -⟩⟩ :=
      fetchFile_stored downloading (Setting.follows_answers before)
    · simp only [persist, Job.bind_eq, Job.trace_bind, Job.pure_eq, Job.trace_done] at rest
      obtain ⟨found, t₃, _, rfl, sniffing, saved, t₄, _, rfl, saving, rfl, -⟩ := rest
      rw [List.append_nil] at after ⊢
      obtain ⟨m', looked, tried⟩ := follows_append.mp after
      have looks := (missingExtension_asks (P := (isSave · = false)) engine.libraries.sniff
        task.fileName fun _ => rfl).forall_mem sniffing
      obtain ⟨rfl, -⟩ := missingExtension_trace sniffing (Setting.follows_answers looked) read
      refine follows_append.mpr ⟨_, Setting.storing_of_saveless looks looked, ?_⟩
      exact saveWithRetry_storing saving tried read
    · contradiction

theorem run_storing (message : task.origin = .message file chat post)
    (ran : (run engine task).Trace t (task', stage)) (follows : Answering.Follows env.delivers w t w') :
    Answering.Follows (env.storing (stored (env.objects file.location) file.size)) w t w' := by
  have looks {t : List Exchange} {result : Except TransferError Route}
      (resolving : (Router.resolve engine.libraries.patterns engine.registry (prepared task)).Trace t result) :
      ∀ x ∈ ⟨.canceled, false⟩ :: t, isSave x.1 = false :=
    forall_mem_of_resolving rfl (fun _ _ => rfl) (fun _ _ _ => rfl) resolving
  cases runs_of_trace ran with
  | canceled => exact Setting.storing_of_saveless (by simp [isSave]) follows
  | unrouted resolving => exact Setting.storing_of_saveless (looks resolving) follows
  | @working t₁ _ route _ _ resolving working =>
    have origin := show (routed (prepared task) route).origin = _ from (prepared_spec message).1
    rw [← List.cons_append] at follows ⊢
    obtain ⟨m, before, after⟩ := follows_append.mp follows
    refine follows_append.mpr ⟨m, Setting.storing_of_saveless (looks resolving) before, ?_⟩
    rcases works_of_message origin working with ⟨e, rfl, -, -⟩ | ⟨t₂, result, rfl, -, carrying⟩
    · exact Setting.storing_of_saveless (by simp [isSave]) after
    · obtain ⟨m₁, made, follows⟩ := after
      obtain ⟨m₂, carried, given⟩ := follows_append.mp follows
      refine ⟨m₁, ⟨made, trivial⟩, follows_append.mpr ⟨m₂, carry_storing carrying carried, ?_⟩⟩
      exact Setting.storing_of_saveless (by simp [isSave]) given

end Transfer

end Courier
