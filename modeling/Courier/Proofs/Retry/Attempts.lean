import Courier.Proofs.Job.Trace
import Courier.Retry

/-! Operations that are tried again: what was asked on the way is a run of failed attempts, numbered
one after another, and then an attempt that ends it or a look that finds the task canceled. -/
namespace Courier

variable {α ε : Type} {attempt : Nat → Job (Except ε α)}

/-- Attempts of the numbers from one up to another that all failed. -/
inductive Failures (attempt : Nat → Job (Except ε α)) : Nat → Nat → List Exchange → Prop where
  | none (n : Nat) : Failures attempt n n []
  | more {n m : Nat} {t rest : List Exchange} {e : ε} (failed : (attempt n).Trace t (.error e))
      (others : Failures attempt (n + 1) m rest) :
      Failures attempt n m (⟨.canceled, false⟩ :: (t ++ rest))

/-- How the attempts end at a number. -/
def Ends (attempt : Nat → Job (Except ε α)) (n : Nat) (t : List Exchange) :
    Except (RetryError ε) α → Prop
  | .ok a => ∃ last, t = ⟨.canceled, false⟩ :: last ∧ (attempt n).Trace last (.ok a)
  | .error (.canceled made) => made = n ∧ t = [⟨.canceled, true⟩]
  | .error (.exhausted made e) =>
    made = n + 1 ∧ ∃ last, t = ⟨.canceled, false⟩ :: last ∧ (attempt n).Trace last (.error e)

/-- One round: the task is found canceled, or its attempt succeeds, or fails and something follows. -/
theorem round_trace {n : Nat} {g : ε → Job (Except (RetryError ε) α)} {t : List Exchange}
    {result : Except (RetryError ε) α}
    (run : Job.Trace (do
      if ← Job.request .canceled then return .error (.canceled n)
      match ← attempt n with
      | .ok a => return .ok a
      | .error e => g e) t result) :
    (Ends attempt n t result ∧ ∀ made e, result ≠ .error (.exhausted made e)) ∨
      ∃ e t₁ t₂, t = ⟨.canceled, false⟩ :: (t₁ ++ t₂) ∧ (attempt n).Trace t₁ (.error e) ∧
        (g e).Trace t₂ result := by
  simp only [Job.bind_eq, Job.request, Job.ask_bind, Job.done_bind, Job.trace_ask] at run
  obtain ⟨canceled, t, rfl, rest⟩ := run
  cases canceled with
  | true =>
    simp only [if_true, Job.pure_eq, Job.trace_done] at rest
    obtain ⟨rfl, rfl⟩ := rest
    exact Or.inl ⟨⟨rfl, rfl⟩, by simp⟩
  | false =>
    simp only [Bool.false_eq_true, if_false, Job.trace_bind] at rest
    obtain ⟨outcome, t₁, t₂, rfl, made, rest⟩ := rest
    cases outcome with
    | ok a =>
      simp only [Job.pure_eq, Job.trace_done] at rest
      obtain ⟨rfl, rfl⟩ := rest
      exact Or.inl ⟨⟨t₁, by rw [List.append_nil], made⟩, by simp⟩
    | error e => exact Or.inr ⟨e, t₁, t₂, rfl, made, rest⟩

/-- The attempts before the last one failed; all of them are used up before they are given up. -/
theorem tryFrom_trace {number spare : Nat} {t : List Exchange} {result : Except (RetryError ε) α}
    (run : (tryFrom attempt number spare).Trace t result) :
    ∃ n front last, t = front ++ last ∧ Failures attempt number n front ∧
      Ends attempt n last result ∧ n ≤ number + spare ∧
      ∀ made e, result = .error (.exhausted made e) → n = number + spare := by
  -- The induction is on the attempts to spare, for every number that they may begin with.
  induction spare generalizing number t with
  | zero =>
    rcases round_trace run with ⟨ends, _⟩ | ⟨e, t₁, t₂, rfl, made, rest⟩
    · exact ⟨number, [], t, rfl, .none number, ends, Nat.le_refl _, fun _ _ _ => rfl⟩
    · simp only [Job.pure_eq, Job.trace_done] at rest
      obtain ⟨rfl, rfl⟩ := rest
      exact ⟨number, [], _, rfl, .none number, ⟨rfl, t₁, by rw [List.append_nil], made⟩,
        Nat.le_refl _, fun _ _ _ => rfl⟩
  | succ spare ih =>
    rcases round_trace (g := fun _ => tryFrom attempt (number + 1) spare) run with
      ⟨ends, given⟩ | ⟨e, t₁, t₂, rfl, made, rest⟩
    · exact ⟨number, [], t, rfl, .none number, ends, Nat.le_add_right ..,
        fun made e he => absurd he (given made e)⟩
    · obtain ⟨n, front, last, rfl, failures, ends, hn, hl⟩ := ih rest
      refine ⟨n, ⟨.canceled, false⟩ :: (t₁ ++ front), last, by simp, .more made failures, ends,
        by omega, ?_⟩
      intro made e he
      have := hl made e he
      omega

theorem withRetry_trace {policy : RetryPolicy} {t : List Exchange}
    {result : Except (RetryError ε) α} (run : (withRetry policy attempt).Trace t result) :
    ∃ n front last, t = front ++ last ∧ Failures attempt 0 n front ∧ Ends attempt n last result ∧
      n < policy.attempts ∧ ∀ made e, result = .error (.exhausted made e) → made = policy.attempts := by
  have hp : 0 < policy.attempts := by unfold RetryPolicy.attempts; omega
  obtain ⟨n, front, last, rfl, failures, ends, hn, hl⟩ := tryFrom_trace run
  refine ⟨n, front, last, rfl, failures, ends, by omega, ?_⟩
  rintro made e rfl
  have hm : made = n + 1 := ends.1
  have := hl made e rfl
  omega

theorem Failures.forall_mem {P : Exchange → Prop} {n m : Nat} {t : List Exchange}
    (failures : Failures attempt n m t) (look : P ⟨.canceled, false⟩)
    (failed : ∀ n t e, (attempt n).Trace t (.error e) → ∀ x ∈ t, P x) : ∀ x ∈ t, P x := by
  induction failures with
  | none n => simp
  | more hf _ ih =>
    intro x hx
    rcases List.mem_cons.mp hx with rfl | hx
    · exact look
    · rcases List.mem_append.mp hx with hx | hx
      · exact failed _ _ _ hf x hx
      · exact ih x hx

theorem Failures.countP_le {p : Exchange → Bool} {n m : Nat} {t : List Exchange}
    (failures : Failures attempt n m t) (look : p ⟨.canceled, false⟩ = false)
    (once : ∀ n t outcome, (attempt n).Trace t outcome → t.countP p ≤ 1) : n + t.countP p ≤ m := by
  induction failures with
  | none n => exact Nat.le_refl n
  | more failed _ ih =>
    have := once _ _ _ failed
    rw [List.countP_cons_of_neg (by simp [look]), List.countP_append]
    omega

theorem withRetry_countP_le {p : Exchange → Bool} {policy : RetryPolicy} {t : List Exchange}
    {result : Except (RetryError ε) α} (look : ∀ canceled, p ⟨.canceled, canceled⟩ = false)
    (once : ∀ n t outcome, (attempt n).Trace t outcome → t.countP p ≤ 1)
    (run : (withRetry policy attempt).Trace t result) : t.countP p ≤ policy.attempts := by
  obtain ⟨n, front, last, rfl, failures, ends, few, -⟩ := withRetry_trace run
  have before := failures.countP_le (look false) once
  have ending : last.countP p ≤ 1 := by
    rcases result with (made | ⟨made, e⟩) | a
    · rw [ends.2, List.countP_cons_of_neg (by simp [look])]
      exact Nat.zero_le 1
    · obtain ⟨-, tried, rfl, made⟩ := ends
      rw [List.countP_cons_of_neg (by simp [look])]
      exact once _ _ _ made
    · obtain ⟨tried, rfl, made⟩ := ends
      rw [List.countP_cons_of_neg (by simp [look])]
      exact once _ _ _ made
  rw [List.countP_append]
  omega

theorem withRetry_asks {P : Request → Prop} (policy : RetryPolicy) (look : P .canceled)
    (asks : ∀ n, (attempt n).Asks P) : (withRetry policy attempt).Asks P := by
  unfold withRetry
  generalize policy.attempts - 1 = spare, 0 = number
  induction spare generalizing number with
  | zero =>
    refine ⟨look, fun canceled => ?_⟩
    cases canceled with
    | true => exact Job.asks_done ..
    | false => exact (asks number).bind fun outcome => by cases outcome <;> exact Job.asks_done ..
  | succ spare ih =>
    refine ⟨look, fun canceled => ?_⟩
    cases canceled with
    | true => exact Job.asks_done ..
    | false =>
      refine (asks number).bind fun outcome => ?_
      cases outcome with
      | ok a => exact Job.asks_done ..
      | error e => exact ih (number + 1)

/-- What a failed fetch comes to. -/
def fetchFailure (cause : CallError) : TransferError :=
  if cause.isCanceled then .canceled else .fetch cause

/-- Whether an error comes from a fetch of a trace: the source failed it, or the task was found
canceled before it or while it went on. -/
def FetchFailed (fetch : Job (Request.Raced Bytes)) (t : List Exchange) (e : TransferError) : Prop :=
  (∃ front last cause, t = front ++ last ∧ fetch.Trace last (some (.error cause)) ∧
    e = fetchFailure cause) ∨
  e = .canceled ∧ (⟨.canceled, true⟩ ∈ t ∨ ∃ front last, t = front ++ last ∧ fetch.Trace last none)

theorem attempt_trace {fetch : Job (Request.Raced Bytes)} {t : List Exchange}
    {outcome : Except CallError Bytes}
    (run : Job.Trace (do return orCanceled (← fetch)) t outcome) :
    ∃ reply, fetch.Trace t reply ∧ outcome = orCanceled reply := by
  simp only [Job.bind_eq, Job.trace_bind, Job.pure_eq, Job.trace_done] at run
  obtain ⟨reply, t₁, _, rfl, fetched, rfl, rfl⟩ := run
  exact ⟨reply, by rwa [List.append_nil], rfl⟩

theorem fetchWithRetry_trace {policy : RetryPolicy} {fetch : Job (Request.Raced Bytes)}
    {t : List Exchange} {result : Except TransferError Bytes}
    (run : (fetchWithRetry policy fetch).Trace t result) :
    (∃ bytes front last, result = .ok bytes ∧ t = front ++ last ∧
      fetch.Trace last (some (.ok bytes))) ∨ ∃ e, result = .error e ∧ FetchFailed fetch t e := by
  simp only [fetchWithRetry, Job.bind_eq, Job.trace_bind] at run
  obtain ⟨outcome, _, t₂, rfl, tried, rest⟩ := run
  obtain ⟨n, front, last, rfl, -, ends, -⟩ := withRetry_trace tried
  cases outcome with
  | ok bytes =>
    simp only [Job.pure_eq, Job.trace_done] at rest
    obtain ⟨rfl, rfl⟩ := rest
    obtain ⟨last, rfl, made⟩ := ends
    obtain ⟨reply, fetched, hr⟩ := attempt_trace made
    refine Or.inl ⟨bytes, front ++ [⟨.canceled, false⟩], last, rfl, by simp, ?_⟩
    cases reply with
    | none => exact absurd hr (by simp [orCanceled])
    | some reply =>
      have hc : reply = .ok bytes := hr.symm
      rwa [hc] at fetched
  | error why =>
    refine Or.inr ?_
    cases why with
    | canceled made =>
      simp only [Job.pure_eq, Job.trace_done] at rest
      obtain ⟨rfl, rfl⟩ := rest
      obtain ⟨-, rfl⟩ := ends
      exact ⟨_, rfl, Or.inr ⟨rfl, Or.inl (by simp)⟩⟩
    | exhausted made cause =>
      simp only [Job.pure_eq, Job.trace_done] at rest
      obtain ⟨rfl, rfl⟩ := rest
      obtain ⟨-, last, rfl, made⟩ := ends
      obtain ⟨reply, fetched, hr⟩ := attempt_trace made
      refine ⟨_, rfl, ?_⟩
      cases reply with
      | none =>
        have hc : cause = .canceled := Except.error.inj hr
        subst hc
        exact Or.inr ⟨rfl, Or.inr ⟨front ++ [⟨.canceled, false⟩], last, by simp, fetched⟩⟩
      | some reply =>
        have hc : reply = .error cause := hr.symm
        subst hc
        exact Or.inl ⟨front ++ [⟨.canceled, false⟩], last, cause, by simp, fetched, rfl⟩

theorem fetchWithRetry_asks {P : Request → Prop} (policy : RetryPolicy)
    {fetch : Job (Request.Raced Bytes)} (look : P .canceled) (asks : fetch.Asks P) :
    (fetchWithRetry policy fetch).Asks P := by
  refine Job.Asks.bind (withRetry_asks policy look fun _ => asks.bind fun _ => Job.asks_done ..) ?_
  intro outcome
  rcases outcome with (_ | _) | _ <;> exact Job.asks_done ..

theorem saveWithRetry_asks {P : Request → Prop} (policy : RetryPolicy) {medium : Medium}
    {localPath remotePath : String} (look : P .canceled) (save : P (.save medium localPath remotePath)) :
    (saveWithRetry policy medium localPath remotePath).Asks P := by
  refine Job.Asks.bind (withRetry_asks policy look fun _ => ⟨save, fun _ => Job.asks_done ..⟩) ?_
  rintro ((_ | _) | _) <;> exact Job.asks_done ..

/-- An exchange that saves nothing to a medium: a look at the cancellation or a save that failed. -/
def SavesNothing (medium : Medium) : Exchange → Prop
  | ⟨.canceled, _⟩ => True
  | ⟨.save kept .., reply⟩ => kept = medium ∧ reply ≠ .ok ()
  | _ => False

/-- A file is saved by the last exchange and by no other, or it is not saved, for a failure or a
cancellation. -/
theorem saveWithRetry_trace {policy : RetryPolicy} {medium : Medium} {localPath remotePath : String}
    {t : List Exchange} {result : Except TransferError Unit}
    (run : (saveWithRetry policy medium localPath remotePath).Trace t result) :
    (∃ front, result = .ok () ∧ t = front ++ [⟨.save medium localPath remotePath, .ok ()⟩] ∧
      ∀ x ∈ front, SavesNothing medium x) ∨
    ∃ e, result = .error e ∧ (∀ x ∈ t, SavesNothing medium x) ∧
      (⟨.canceled, true⟩ ∈ t ∨ ∃ cause, ⟨.save medium localPath remotePath, .error cause⟩ ∈ t) := by
  simp only [saveWithRetry, Job.bind_eq, Job.trace_bind] at run
  obtain ⟨outcome, _, t₂, rfl, tried, rest⟩ := run
  obtain ⟨n, front, last, rfl, failures, ends, -⟩ := withRetry_trace tried
  have failed : ∀ {t e}, (Job.request (.save medium localPath remotePath)).Trace t (.error e) →
      t = [⟨.save medium localPath remotePath, .error e⟩] := by
    intro t e made
    simp only [Job.request, Job.trace_ask, Job.trace_done] at made
    obtain ⟨reply, _, rfl, rfl, rfl⟩ := made
    rfl
  have hfront : ∀ x ∈ front, SavesNothing medium x :=
    failures.forall_mem trivial fun _ _ _ made => by simp [failed made, SavesNothing]
  rcases outcome with (made | ⟨made, e⟩) | u
  · simp only [Job.pure_eq, Job.trace_done] at rest
    obtain ⟨rfl, rfl⟩ := rest
    obtain ⟨-, rfl⟩ := ends
    refine Or.inr ⟨_, rfl, ?_, Or.inl (by simp)⟩
    simpa [or_imp, forall_and, SavesNothing] using hfront
  · simp only [Job.pure_eq, Job.trace_done] at rest
    obtain ⟨rfl, rfl⟩ := rest
    obtain ⟨-, last, rfl, made⟩ := ends
    rw [failed made]
    refine Or.inr ⟨_, rfl, ?_, Or.inr ⟨e, by simp⟩⟩
    simpa [or_imp, forall_and, SavesNothing] using hfront
  · simp only [Job.pure_eq, Job.trace_done] at rest
    obtain ⟨rfl, rfl⟩ := rest
    obtain ⟨last, rfl, made⟩ := ends
    simp only [Job.request, Job.trace_ask, Job.trace_done] at made
    obtain ⟨reply, _, rfl, rfl, rfl⟩ := made
    refine Or.inl ⟨front ++ [⟨.canceled, false⟩], rfl, by simp, ?_⟩
    simpa [or_imp, forall_and, SavesNothing] using hfront

end Courier
