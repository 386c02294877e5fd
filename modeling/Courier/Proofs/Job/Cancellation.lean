import Courier.Proofs.Job.Trace
import Courier.Retry

/-! Jobs whose task may be canceled at any time. A job that looks at the cancellation and goes on at
once sees what it is when the next call begins, since nothing is waited for in between; while a call
goes on the cancellation may come. -/
namespace Courier

/-- Calls that carry bytes from a source or to a storage. -/
def Request.isCarrying : Request → Bool
  | .fetchChunk .. | .fetchWhole .. | .save .. => true
  | _ => false

/-- Whether an answer means that the call has been given up, as only a cancellation makes it. -/
def Request.isGivenUp : (r : Request) → r.Reply → Prop
  | .fetchChunk .., reply | .fetchWhole .., reply | .image _, reply => reply = none
  | .page _, reply => reply = none
  | _, _ => False

/-- The cancellation of a task. -/
structure Token where
  /-- Whether it has been asked for. -/
  asked : Bool
  /-- Fetches and saves that began after that. -/
  late : List Request

namespace Token

/-- The cancellation after a call during which it may have been asked for. -/
def after (k : Token) (r : Request) (asked : Bool) : Token where
  asked := k.asked || asked
  late := if k.asked && r.isCarrying then k.late ++ [r] else k.late

/-- A look tells what is; calls are answered in any way, but are given up for a cancellation only. -/
def answers (k : Token) : (r : Request) → r.Reply → Token → Prop
  | .canceled, reply, k' => reply = k.asked ∧ k' = k
  | r, reply, k' => ∃ asked, k' = k.after r asked ∧ (r.isGivenUp reply → k'.asked = true)

theorem exists_answer (k : Token) (r : Request) : ∃ reply k', k.answers r reply k' := by
  cases r with
  | canceled => exact ⟨k.asked, k, rfl, rfl⟩
  | _ => exact ⟨Request.someReply _, k.after _ true, true, rfl, fun _ => by simp [after]⟩

end Token

/-- Whether a source or a storage answers that it was canceled. -/
def SaysCanceled : Exchange → Prop
  | ⟨.fetchChunk .., reply⟩ | ⟨.fetchWhole .., reply⟩ => reply = some (.error .canceled)
  | ⟨.save .., reply⟩ => reply = .error .canceled
  | _ => False

/-- What becomes of the cancellation along a trace: no fetch and no save begins after it, it is not
taken back, and what stops for it has a cause. -/
structure Heeded (k : Token) (t : List Exchange) (k' : Token) (stopped : Prop) : Prop where
  late : k'.late = k.late
  kept : k.asked = true → k'.asked = true
  cause : stopped → k'.asked = true ∨ ∃ x ∈ t, SaysCanceled x

namespace Heeded

variable {k m k' : Token} {t t₁ t₂ : List Exchange} {p q : Prop}

theorem refl (k : Token) (h : ¬ p) : Heeded k [] k p :=
  ⟨rfl, id, fun hp => absurd hp h⟩

theorem imp (h : Heeded k t k' p) (himp : q → p) : Heeded k t k' q :=
  ⟨h.late, h.kept, fun hq => h.cause (himp hq)⟩

theorem append (first : Heeded k t₁ m p) (second : Heeded m t₂ k' (q ∧ ¬ p)) :
    Heeded k (t₁ ++ t₂) k' q where
  late := second.late.trans first.late
  kept h := second.kept (first.kept h)
  cause hq := by
    -- Either the first part has stopped already, or it is the second that stops.
    by_cases hp : p
    · refine (first.cause hp).imp second.kept ?_
      rintro ⟨x, hx, tells⟩
      exact ⟨x, List.mem_append_left t₂ hx, tells⟩
    · refine (second.cause ⟨hq, hp⟩).imp_right ?_
      rintro ⟨x, hx, tells⟩
      exact ⟨x, List.mem_append_right t₁ hx, tells⟩

/-- A call heeds the cancellation if it carries nothing or begins before it. -/
theorem of_call {r : Request} {reply : r.Reply} (call : r ≠ .canceled)
    (early : r.isCarrying = true → k.asked = false) (h : k.answers r reply k') :
    Heeded k [⟨r, reply⟩] k' (r.isGivenUp reply ∨ SaysCanceled ⟨r, reply⟩) := by
  have change : ∃ asked, k' = k.after r asked ∧ (r.isGivenUp reply → k'.asked = true) := by
    cases r with
    | canceled => exact absurd rfl call
    | _ => exact h
  obtain ⟨asked, rfl, givenUp⟩ := change
  refine ⟨?_, fun h => by simp [Token.after, h], ?_⟩
  · rw [Token.after, if_neg]
    intro h
    obtain ⟨was, carries⟩ := Bool.and_eq_true_iff.mp h
    rw [early carries] at was
    contradiction
  · exact Or.imp givenUp fun tells => ⟨_, List.mem_cons_self, tells⟩

end Heeded

namespace Job

variable {α β : Type} {job : Job α} {f : α → Job β} {start : Token → Prop}

/-- A job that heeds the cancellation, from where it may start on; what it comes to where it stops. -/
def HeedsFrom (start : Token → Prop) (job : Job α) (stops : α → Prop) : Prop :=
  ∀ k t a k', start k → job.Trace t a → Answering.Follows Token.answers k t k' →
    Heeded k t k' (stops a)

/-- A job that heeds the cancellation whether it has come already or not. -/
abbrev Heeds (job : Job α) (stops : α → Prop) : Prop :=
  job.HeedsFrom (fun _ => True) stops

/-- A job that heeds the cancellation if it has not come when it starts. -/
abbrev HeedsUnasked (job : Job α) (stops : α → Prop) : Prop :=
  job.HeedsFrom (·.asked = false) stops

theorem HeedsFrom.imp {p q : α → Prop} (heeds : job.HeedsFrom start p) (himp : ∀ a, q a → p a) :
    job.HeedsFrom start q :=
  fun k t a k' hk run follows => (heeds k t a k' hk run follows).imp (himp a)

theorem HeedsFrom.of_start {p : α → Prop} (heeds : job.Heeds p) : job.HeedsFrom start p :=
  fun k t a k' _ => heeds k t a k' trivial

theorem heedsFrom_done {a : α} {stops : α → Prop} (h : ¬ stops a) :
    (done a).HeedsFrom start stops := by
  intro k t b k' _ run follows
  obtain ⟨rfl, rfl⟩ := trace_done.mp run
  obtain rfl : k' = k := follows
  exact .refl k' h

/-- What the second part stops for is what the first part has not stopped for already. -/
theorem HeedsFrom.bind {p : α → Prop} {q : β → Prop} (first : job.HeedsFrom start p)
    (second : ∀ a, (f a).Heeds fun b => q b ∧ ¬ p a) : (job.bind f).HeedsFrom start q := by
  intro k t b k' hk run follows
  obtain ⟨a, t₁, t₂, rfl, run₁, run₂⟩ := trace_bind.mp run
  obtain ⟨m, follows₁, follows₂⟩ := Answering.follows_append.mp follows
  exact (first k t₁ a m hk run₁ follows₁).append (second a m t₂ b k' trivial run₂ follows₂)

theorem heeds_look {next : Bool → Job α} {q : α → Prop} (stop : (next true).Heeds fun _ => False)
    (go : (next false).HeedsUnasked q) : (ask .canceled next).Heeds q := by
  intro k t a k' _ run follows
  obtain ⟨reply, t, rfl, rest⟩ := trace_ask.mp run
  obtain ⟨m, ⟨rfl, rfl⟩, follows⟩ := follows
  have look : Heeded m [⟨.canceled, m.asked⟩] m False := ⟨rfl, id, False.elim⟩
  have rest : Heeded m t k' (q a) := by
    cases h : m.asked with
    | true =>
      -- A cancellation is not taken back, so that it is the cause of all that follows.
      rw [h] at rest
      have stopped := stop m t a k' trivial rest follows
      exact ⟨stopped.late, stopped.kept, fun _ => Or.inl (stopped.kept h)⟩
    | false =>
      rw [h] at rest
      exact go m t a k' h rest follows
  exact look.append (rest.imp And.left)

theorem heedsFrom_ask {r : Request} {next : r.Reply → Job α} {q : α → Prop} (call : r ≠ .canceled)
    (early : r.isCarrying = true → ∀ k, start k → k.asked = false)
    (second : ∀ reply, (next reply).Heeds fun a =>
      q a ∧ ¬ (r.isGivenUp reply ∨ SaysCanceled ⟨r, reply⟩)) :
    (ask r next).HeedsFrom start q := by
  intro k t a k' hk run follows
  obtain ⟨reply, t, rfl, rest⟩ := trace_ask.mp run
  obtain ⟨m, answered, follows⟩ := follows
  have first := Heeded.of_call call (fun carries => early carries k hk) answered
  exact first.append (second reply m t a k' trivial rest follows)

theorem request_heedsUnasked {r : Request} (call : r ≠ .canceled) :
    (request r).HeedsUnasked fun reply => r.isGivenUp reply ∨ SaysCanceled ⟨r, reply⟩ :=
  heedsFrom_ask call (fun _ _ h => h) fun _ => heedsFrom_done fun ⟨stops, goesOn⟩ => goesOn stops

theorem request_heeds {r : Request} (call : r ≠ .canceled) (quiet : r.isCarrying = false) :
    (request r).Heeds fun _ => False :=
  heedsFrom_ask call (by simp [quiet]) fun _ => heedsFrom_done And.left

theorem heeds_of_asks (quiet : job.Asks fun r => r ≠ .canceled ∧ r.isCarrying = false) :
    job.Heeds fun _ => False := by
  induction job with
  | done a => exact heedsFrom_done id
  | ask r next ih =>
    exact heedsFrom_ask quiet.1.1 (by simp [quiet.1.2]) fun reply =>
      (ih reply (quiet.2 reply)).imp fun _ => And.left

end Job

/-- Whether a result is an error of some kind. -/
def FailsBy {ε α : Type} (kind : ε → Prop) : Except ε α → Prop
  | .ok _ => False
  | .error e => kind e

/-- Whether attempts ended for a cancellation before one, or with an error of some kind. -/
def RetryError.Stopped {ε : Type} (kind : ε → Prop) : RetryError ε → Prop
  | .canceled _ => True
  | .exhausted _ e => kind e

variable {α ε : Type} {attempt : Nat → Job (Except ε α)} {kind : ε → Prop}

theorem tryFrom_heeds (attempts : ∀ n, (attempt n).HeedsUnasked (FailsBy kind)) (number spare : Nat) :
    (tryFrom attempt number spare).Heeds (FailsBy (RetryError.Stopped kind)) := by
  -- The induction is on the attempts to spare. After one that failed the rest looks anew.
  induction spare generalizing number with
  | zero =>
    refine Job.heeds_look (Job.heedsFrom_done id) ((attempts number).bind fun outcome => ?_)
    cases outcome with
    | ok a => exact Job.heedsFrom_done And.left
    | error e => exact Job.heedsFrom_done fun ⟨stops, goesOn⟩ => goesOn stops
  | succ spare ih =>
    refine Job.heeds_look (Job.heedsFrom_done id) ((attempts number).bind fun outcome => ?_)
    cases outcome with
    | ok a => exact Job.heedsFrom_done And.left
    | error e => exact (ih (number + 1)).imp fun _ => And.left

theorem withRetry_heeds (attempts : ∀ n, (attempt n).HeedsUnasked (FailsBy kind))
    (policy : RetryPolicy) : (withRetry policy attempt).Heeds (FailsBy (RetryError.Stopped kind)) :=
  tryFrom_heeds attempts 0 _

/-- Whether a result is that of something canceled. -/
abbrev CallCanceled : Except CallError α → Prop :=
  FailsBy (·.isCanceled = true)

abbrev TransferCanceled : Except TransferError α → Prop :=
  FailsBy (·.isCanceled = true)

theorem isCanceled_iff {e : CallError} : e.isCanceled = true ↔ e = .canceled := by
  cases e <;> simp [CallError.isCanceled]

theorem orCanceled_iff {reply : Request.Raced Bytes} :
    CallCanceled (orCanceled reply) ↔ reply = none ∨ reply = some (.error .canceled) := by
  rcases reply with _ | (e | bytes)
  · simp [orCanceled, FailsBy, CallError.isCanceled]
  · simp [orCanceled, FailsBy, isCanceled_iff]
  · simp [orCanceled, FailsBy]

theorem isCanceled_of_told {last : CallError} {e : TransferError}
    (same : e.isCanceled = last.isCanceled)
    (told : (if last.isCanceled then .canceled else e : TransferError).isCanceled = true) :
    last.isCanceled = true := by
  split at told
  · next canceled => exact canceled
  · exact same.symm.trans told

theorem fetchWithRetry_heeds {fetch : Job (Request.Raced Bytes)} (policy : RetryPolicy)
    (heeds : fetch.HeedsUnasked fun reply => reply = none ∨ reply = some (.error .canceled)) :
    (fetchWithRetry policy fetch).Heeds TransferCanceled := by
  have attempts (_ : Nat) : Job.HeedsUnasked (do return orCanceled (← fetch)) CallCanceled :=
    heeds.bind fun reply => Job.heedsFrom_done fun ⟨canceled, other⟩ =>
      other (orCanceled_iff.mp canceled)
  refine (withRetry_heeds attempts policy).bind fun outcome => ?_
  rcases outcome with (_ | ⟨_, last⟩) | bytes
  · exact Job.heedsFrom_done fun ⟨_, goesOn⟩ => goesOn trivial
  · exact Job.heedsFrom_done fun ⟨canceled, goesOn⟩ => goesOn (isCanceled_of_told rfl canceled)
  · exact Job.heedsFrom_done And.left

theorem saveWithRetry_heeds (policy : RetryPolicy) (medium : Medium)
    (localPath remotePath : String) :
    (saveWithRetry policy medium localPath remotePath).Heeds TransferCanceled := by
  have attempts (_ : Nat) : (Job.request (.save medium localPath remotePath)).HeedsUnasked
      CallCanceled := by
    refine (Job.request_heedsUnasked (by simp)).imp fun reply canceled => Or.inr ?_
    cases reply with
    | ok u => exact canceled.elim
    | error e => exact congrArg Except.error (isCanceled_iff.mp canceled)
  refine (withRetry_heeds attempts policy).bind fun outcome => ?_
  rcases outcome with (_ | ⟨_, last⟩) | u
  · exact Job.heedsFrom_done fun ⟨_, goesOn⟩ => goesOn trivial
  · exact Job.heedsFrom_done fun ⟨canceled, goesOn⟩ => goesOn (isCanceled_of_told rfl canceled)
  · exact Job.heedsFrom_done And.left

end Courier
