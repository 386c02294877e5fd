import Courier.Proofs.Job.Trace
import Courier.Retry

/-! What holds at every question of a job and at its result, worked out from the end of the job. It says
of a job under way what may still come of it, wherever it is. -/
namespace Courier

variable {σ α β ε : Type}

/-- From a state on a job asks only what may be asked by then, and it comes to results that are right,
whatever the world answers. -/
def Job.Meets (world : Answering σ) (may : σ → Request → Prop) (right : σ → α → Prop) :
    Job α → σ → Prop
  | .done a, s => right s a
  | .ask r next, s => may s r ∧ ∀ reply s', world s r reply s' → (next reply).Meets world may right s'

namespace Job

variable {world : Answering σ} {may : σ → Request → Prop} {right : σ → α → Prop} {s : σ}

theorem Meets.imp {right' : σ → α → Prop} {job : Job α} (meets : job.Meets world may right s)
    (h : ∀ s a, right s a → right' s a) : job.Meets world may right' s := by
  induction job generalizing s with
  | done a => exact h s a meets
  | ask r next ih => exact ⟨meets.1, fun reply s' answered => ih reply (meets.2 reply s' answered)⟩

theorem meets_bind {job : Job α} {f : α → Job β} {right : σ → β → Prop} :
    (job.bind f).Meets world may right s ↔
      job.Meets world may (fun s a => (f a).Meets world may right s) s := by
  induction job generalizing s with
  | done a => exact Iff.rfl
  | ask r next ih =>
    constructor
    · intro ⟨allowed, rest⟩
      exact ⟨allowed, fun reply s' answered => (ih reply).mp (rest reply s' answered)⟩
    · intro ⟨allowed, rest⟩
      exact ⟨allowed, fun reply s' answered => (ih reply).mpr (rest reply s' answered)⟩

end Job

/-- What holds after an operation has been tried: it is good, or all is as before. -/
def Tried (before : σ → Prop) (good : σ → α → Prop) (s : σ) : Except ε α → Prop
  | .ok a => good s a
  | .error _ => before s

section Retry

variable {world : Answering σ} {may : σ → Request → Prop} {attempt : Nat → Job (Except ε α)}
  {before : σ → Prop} {good : σ → α → Prop}
  (looks : ∀ s, before s → may s .canceled ∧ ∀ reply s', world s .canceled reply s' → before s')
  (tries : ∀ n s, before s → (attempt n).Meets world may (Tried before good) s)

include looks tries

/-- One round: what holds before an attempt holds again where there is none, and where it failed. -/
theorem round_meets {n : Nat} {next : ε → Job (Except (RetryError ε) α)} {s : σ} (ready : before s)
    (goesOn : ∀ e s, before s → (next e).Meets world may (Tried before good) s) :
    Job.Meets world may (Tried before good)
      (do
        if ← Job.request .canceled then return .error (.canceled n)
        match ← attempt n with
        | .ok a => return .ok a
        | .error e => next e) s := by
  refine ⟨(looks s ready).1, fun canceled s' looked => ?_⟩
  have ready := (looks s ready).2 canceled s' looked
  cases canceled with
  | true => exact ready
  | false =>
    show Job.Meets world may _ ((attempt n).bind fun outcome => match outcome with
      | .ok a => pure (.ok a)
      | .error e => next e) s'
    refine Job.meets_bind.mpr ((tries n s' ready).imp fun s outcome => ?_)
    cases outcome with
    | ok a => exact id
    | error e => exact goesOn e s

/-- However often an operation is tried, it ends well, or as if it had never been tried. -/
theorem withRetry_meets (policy : RetryPolicy) {s : σ} (ready : before s) :
    (withRetry policy attempt).Meets world may (Tried before good) s := by
  unfold withRetry
  generalize policy.attempts - 1 = spare, 0 = number
  induction spare generalizing number s with
  | zero => exact round_meets looks tries ready fun e s ready => ready
  | succ spare ih => exact round_meets looks tries ready fun e s ready => ih ready (number + 1)

end Retry

end Courier
