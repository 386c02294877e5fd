import Courier.Proofs.FileTree.Writing
import Courier.Proofs.Transfer.Reading
import Courier.Proofs.Transfer.Routing
import Courier.Transfer.Run

/-! A world for one transfer: remote objects, the rules and texts that routing asks for, a file system,
and storages that keep what is saved in memory. Fetches, saves and changes of files may fail at any
time, and the task may be canceled at any time. -/
namespace Courier

/-- What a transfer changes: files, and entries of storages by backend, path and content, in the
order in which they were written. -/
structure Depot where
  files : FileTree
  written : List (Nat × String × Bytes)

/-- What a transfer only asks for. -/
structure Setting where
  objects : String → Bytes
  rules : Except CallError UserRules
  text : Except CallError (Option String)

namespace Setting

/-- How a question can be answered, and what the depot is then. Where changing files fails they may be
left in any state; a storage whose save fails has no new entry. -/
def answers (env : Setting) (w : Depot) : (q : Request) → q.Reply → Depot → Prop
  | .userRules _, reply, w' => reply = env.rules ∧ w' = w
  | .messageText .., reply, w' => reply = env.text ∧ w' = w
  | .makeDirectories path, reply, w' =>
    w'.written = w.written ∧ (reply = .ok () → w.files.makeDirectories path = .ok w'.files)
  | .createFile path, reply, w' =>
    w'.written = w.written ∧ (reply = .ok () → w.files.create path = .ok w'.files)
  | .appendFile path more, reply, w' =>
    w'.written = w.written ∧ (reply = .ok () → w'.files = w.files.append path more)
  | .writeFile path content, reply, w' =>
    w'.written = w.written ∧ (reply = .ok () → w.files.write path content = .ok w'.files)
  | .readHead path most, reply, w' =>
    reply = (w.files.read path).map (·.extract 0 most) ∧ w' = w
  | .fetchChunk location offset limit, reply, w' =>
    w' = w ∧ ∀ bytes, reply = some (.ok bytes) →
      bytes = (env.objects location).extract offset (offset + limit)
  | .fetchWhole location limit, reply, w' =>
    w' = w ∧ ∀ bytes, reply = some (.ok bytes) → bytes = (env.objects location).extract 0 limit
  | .save (.backend number) localPath path, reply, w' =>
    w'.files = w.files ∧ ((∃ e, reply = .error e) ∧ w'.written = w.written ∨
      reply = .ok () ∧ ∃ content, w.files.read localPath = .ok content ∧
        w'.written = w.written ++ [(number, path, content)])
  | .dispose _, _, w' => w'.written = w.written
  | .canceled, _, w' | .progress .., _, w' => w' = w
  | .save .disk .., _, _ | .page _, _, _ | .image _, _, _ => True

theorem exists_answer (env : Setting) (w : Depot) (q : Request) :
    ∃ reply w', env.answers w q reply w' := by
  cases q with
  | canceled => exact ⟨false, w, rfl⟩
  | userRules user => exact ⟨env.rules, w, rfl, rfl⟩
  | messageText chat post => exact ⟨env.text, w, rfl, rfl⟩
  | readHead path most => exact ⟨_, w, rfl, rfl⟩
  | fetchChunk location offset limit => exact ⟨none, w, rfl, by simp⟩
  | fetchWhole location limit => exact ⟨none, w, rfl, by simp⟩
  | save medium localPath path =>
    cases medium with
    | disk => exact ⟨.ok (), w, trivial⟩
    | backend number => exact ⟨.error .canceled, w, rfl, Or.inl ⟨⟨_, rfl⟩, rfl⟩⟩
  | makeDirectories | createFile | appendFile | writeFile =>
    exact ⟨.error .noEntry, w, rfl, by simp⟩
  | dispose path => exact ⟨(), w, rfl⟩
  | progress summary read total => exact ⟨(), w, rfl⟩
  | page slug => exact ⟨none, w, trivial⟩
  | image link => exact ⟨none, w, trivial⟩

/-- Questions that change nothing. -/
def isQuiet : Request → Bool
  | .canceled | .userRules _ | .messageText .. | .readHead .. | .fetchChunk .. | .fetchWhole ..
  | .progress .. => true
  | _ => false

variable {env : Setting} {w w' : Depot} {t : List Exchange}

theorem eq_of_isQuiet {q : Request} {reply : q.Reply} (quiet : isQuiet q = true)
    (h : env.answers w q reply w') : w' = w := by
  cases q with
  | canceled | progress => exact h
  | userRules | messageText | readHead => exact h.2
  | fetchChunk | fetchWhole => exact h.1
  | _ => contradiction

theorem eq_of_asks_isQuiet {α : Type} {job : Job α} {a : α} (asks : job.Asks (isQuiet · = true))
    (run : job.Trace t a) (follows : Answering.Follows env.answers w t w') : w' = w :=
  follows.eq_of_forall_mem (P := fun x => isQuiet x.1 = true) (asks.forall_mem run)
    fun _ _ _ _ quiet h => eq_of_isQuiet quiet h

theorem eq_of_savesNothing {number : Nat} {q : Request} {reply : q.Reply}
    (nothing : SavesNothing (.backend number) ⟨q, reply⟩) (h : env.answers w q reply w') : w' = w := by
  cases q with
  | canceled => exact h
  | save medium localPath path =>
    obtain ⟨rfl, failed⟩ := nothing
    obtain ⟨files, ⟨-, written⟩ | ⟨saved, -⟩⟩ := h
    · cases w
      cases w'
      simp only at files written
      rw [files, written]
    · contradiction
  | _ => contradiction

theorem serves (follows : Answering.Follows env.answers w t w') (location : String) :
    ∀ x ∈ t, Reader.Serves location (env.objects location) x := by
  refine follows.forall_mem fun _ q reply _ h => ?_
  cases q with
  | fetchChunk place offset limit =>
    match reply, h with
    | some (.ok bytes), h =>
      rintro rfl
      exact h.2 bytes rfl
    | some (.error _), _ | none, _ => trivial
  | _ => trivial

theorem told (follows : Answering.Follows env.answers w t w') :
    ∀ x ∈ t, Router.Told env.rules env.text x := by
  refine follows.forall_mem fun _ q reply _ h => ?_
  cases q with
  | userRules | messageText => exact h.1
  | _ => trivial

end Setting

/-- An answer for which a transfer may fail: that something failed, or that the task is canceled. -/
def Hinders : Exchange → Prop
  | ⟨.canceled, reply⟩ => reply = true
  | ⟨.fetchChunk .., reply⟩ | ⟨.fetchWhole .., reply⟩ => ∀ bytes, reply ≠ some (.ok bytes)
  | ⟨.makeDirectories _, reply⟩ | ⟨.createFile _, reply⟩ | ⟨.appendFile .., reply⟩
  | ⟨.writeFile .., reply⟩ => reply ≠ .ok ()
  | ⟨.save .., reply⟩ => reply ≠ .ok ()
  | _ => False

def Hindered (t : List Exchange) : Prop :=
  ∃ x ∈ t, Hinders x

theorem Hindered.append_left {t₁ : List Exchange} (h : Hindered t₁) (t₂ : List Exchange) :
    Hindered (t₁ ++ t₂) :=
  h.imp fun _ hx => ⟨List.mem_append_left t₂ hx.1, hx.2⟩

theorem Hindered.append_right {t₂ : List Exchange} (h : Hindered t₂) (t₁ : List Exchange) :
    Hindered (t₁ ++ t₂) :=
  h.imp fun _ hx => ⟨List.mem_append_right t₁ hx.1, hx.2⟩

theorem Hindered.cons {t : List Exchange} (h : Hindered t) (x : Exchange) : Hindered (x :: t) :=
  h.append_right [x]

theorem hindered_head {x : Exchange} (h : Hinders x) (t : List Exchange) : Hindered (x :: t) :=
  ⟨x, List.mem_cons_self .., h⟩

theorem hindered_of_fault {t : List Exchange} {e : TransferError}
    (h : ∃ x ∈ t, Reader.fault? x = some e) : Hindered t := by
  obtain ⟨⟨q, reply⟩, hx, fault⟩ := h
  refine ⟨_, hx, ?_⟩
  cases q with
  | canceled =>
    cases reply with
    | true => rfl
    | false => contradiction
  | fetchChunk location offset limit =>
    rintro bytes rfl
    contradiction
  | _ => contradiction

theorem hindered_of_fetchFailed {t : List Exchange} {location : String} {limit : Nat}
    {e : TransferError} (h : FetchFailed (Job.request (.fetchWhole location limit)) t e) :
    Hindered t := by
  simp only [FetchFailed, Job.request, Job.trace_ask, Job.trace_done] at h
  rcases h with ⟨front, _, cause, rfl, ⟨reply, _, rfl, rfl, rfl⟩, -⟩ | ⟨-, told | told⟩
  · exact (hindered_head (by simp [Hinders]) []).append_right front
  · exact ⟨_, told, rfl⟩
  · obtain ⟨front, _, rfl, reply, _, rfl, rfl, rfl⟩ := told
    exact (hindered_head (by simp [Hinders]) []).append_right front

end Courier
