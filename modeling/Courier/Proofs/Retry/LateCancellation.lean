import Courier.Proofs.Retry.Calls

/-! A cancellation that comes while an operation is tried for the last time. The task is looked at before
an attempt and not after it, so that the error of this attempt is told in place of the cancellation. -/
namespace Courier

variable {α : Type}

/-- A cancellation that comes during the last attempt of all, which fails with an error of its own. -/
structure Overlooked (budget : Nat) (calls : List (Call CallError α)) (cause : CallError) : Prop where
  spent : calls.length = budget
  own : cause ≠ .canceled
  during : ∃ c, calls.getLast? = some c ∧ c.outcome = .error cause ∧
    c.before.asked = false ∧ c.after.asked = true

/-- What is told of calls by the end of which their task was canceled. -/
structure CanceledBy (tell : Nat → CallError → TransferError) (budget : Nat)
    (calls : List (Call CallError α)) (result : Except TransferError α) : Prop where
  ok_iff : ∀ a, result = .ok a ↔ ∃ c, calls.getLast? = some c ∧ c.outcome = .ok a
  canceled_iff : result = .error .canceled ↔
    AllFailed calls ∧ ∀ cause, ¬ Overlooked budget calls cause
  other_iff : ∀ e, e ≠ .canceled →
    (result = .error e ↔ ∃ cause, Overlooked budget calls cause ∧ e = tell budget cause)

section Told

variable {attempt : Nat → Job (Except CallError α)} {k k' : Token}
  {t : List Exchange} {outcome : Except (RetryError CallError) α} {calls : List (Call CallError α)}

theorem Calls.after_last {n : Nat} {c : Call CallError α} (all : Calls attempt n k calls k')
    (last : calls.getLast? = some c) : c.after = k' := by
  obtain ⟨front, rfl⟩ := List.getLast?_eq_some_iff.mp last
  exact (calls_concat.mp all).2.2.2.symm

theorem Retried.overlooked_iff {budget : Nat} (retried : Retried attempt budget k t outcome k' calls)
    (asked : k'.asked = true) (cause : CallError) :
    Overlooked budget calls cause ↔ outcome = .error (.exhausted budget cause) ∧ cause ≠ .canceled := by
  rw [retried.exhausted_iff]
  constructor
  · rintro ⟨spent, own, c, last, failed, -⟩
    exact ⟨⟨spent.symm, rfl, c, last, failed⟩, own⟩
  · rintro ⟨⟨spent, -, c, last, failed⟩, own⟩
    have before := retried.unasked c (List.mem_of_getLast? last)
    have after := retried.made.after_last last
    exact ⟨spent.symm, own, c, last, failed, before, after ▸ asked⟩

theorem Retried.allFailed_iff {budget : Nat}
    (retried : Retried attempt budget k t outcome k' calls) :
    AllFailed calls ↔ ∀ a, outcome ≠ .ok a := by
  simp only [ne_eq, retried.ok_iff, not_exists, not_and]
  constructor
  · intro failed a c last good
    obtain ⟨e, bad⟩ := failed c (List.mem_of_getLast? last)
    exact absurd (good.symm.trans bad) nofun
  · intro never c hc
    rcases List.eq_nil_or_concat calls with rfl | ⟨front, last, rfl⟩
    · exact absurd hc List.not_mem_nil
    rw [List.concat_eq_append] at hc never
    have failed := retried.failed
    rw [List.concat_eq_append, List.dropLast_concat] at failed
    rcases List.mem_append.mp hc with hc | hc
    · exact failed c hc
    · obtain rfl := List.mem_singleton.mp hc
      cases outcome' : c.outcome with
      | error e => exact ⟨e, rfl⟩
      | ok a => exact absurd outcome' (never a c List.getLast?_concat)

/-- The error that is told is that of the cancellation, unless the cancellation was overlooked. -/
theorem Retried.canceledBy {budget : Nat} {tell : Nat → CallError → TransferError}
    {result : Except TransferError α} (plain : ∀ n e, tell n e ≠ .canceled)
    (retried : Retried attempt budget k t outcome k' calls) (asked : k'.asked = true)
    (told : Surfaces tell outcome result) : CanceledBy tell budget calls result := by
  refine ⟨fun a => ?ok, ?canceled, fun e other => ?other⟩
  case ok =>
    rw [← retried.ok_iff]
    cases told <;> simp
  case canceled =>
    simp only [retried.allFailed_iff, retried.overlooked_iff asked]
    cases told with
    | ok | stopped | canceled => simp
    | failed n own =>
      obtain ⟨-, rfl, -⟩ := (retried.exhausted_iff n _).mp rfl
      simp [plain, own]
  case other =>
    simp only [retried.overlooked_iff asked]
    cases told with
    | ok => simp
    | stopped | canceled => simp [other.symm]
    | failed n own =>
      obtain ⟨-, rfl, -⟩ := (retried.exhausted_iff n _).mp rfl
      constructor
      · rintro ⟨⟩
        exact ⟨_, ⟨rfl, own⟩, rfl⟩
      · rintro ⟨_, ⟨⟨⟩, -⟩, rfl⟩
        rfl

end Told

theorem Token.after_false {k : Token} (unasked : k.asked = false) (r : Request) :
    k.after r false = k := by
  obtain ⟨asked, late⟩ := k
  obtain rfl : asked = false := unasked
  rfl

/-- A save that fails each time, and at the last time while its task is canceled, is given up. -/
theorem exists_overlooked {medium : Medium} {localPath remotePath : String} (cause : CallError)
    {k : Token} (unasked : k.asked = false) (number spare : Nat) : ∃ t k',
      (tryFrom (fun _ => Job.request (.save medium localPath remotePath)) number spare).Trace t
        (.error (.exhausted (number + spare + 1) cause)) ∧
      Answering.Follows Token.answers k t k' ∧ k'.asked = true := by
  let save := Request.save medium localPath remotePath
  have failed : (Job.request save).Trace [⟨save, .error cause⟩] (.error cause) :=
    request_trace_iff.mpr rfl
  -- The induction is on the attempts to spare: the cancellation waits until none is left.
  induction spare generalizing number with
  | zero =>
    refine ⟨_, k.after save true, tryFrom_of_failed failed, ?_, Bool.or_true _⟩
    exact ⟨k, ⟨unasked.symm, rfl⟩, _, ⟨true, rfl, False.elim⟩, rfl⟩
  | succ spare ih =>
    obtain ⟨t, k', run, follows, asked⟩ := ih (number + 1)
    rw [Nat.add_right_comm number 1 spare] at run
    refine ⟨_, k', tryFrom_of_others failed run, ?_, asked⟩
    exact ⟨k, ⟨unasked.symm, rfl⟩, k, ⟨false, (Token.after_false unasked save).symm, False.elim⟩, follows⟩

/-- Where saves or fetches that are tried again do not succeed and their task was canceled by then, they
are told as canceled, unless the cancellation came during the very last attempt and this one failed with
an error of its own. Then, and with every policy it comes to that, the error is told in its place. -/
theorem canceled_unless_overlooked (policy : RetryPolicy) :
    (∀ medium localPath remotePath k t result k',
      (saveWithRetry policy medium localPath remotePath).Trace t result →
      Answering.Follows Token.answers k t k' → k'.asked = true →
      ∃ calls outcome, Retried (fun _ => Job.request (.save medium localPath remotePath))
          policy.attempts k t outcome k' calls ∧
        CanceledBy .saveFailed policy.attempts calls result) ∧
    (∀ (fetch : Job (Request.Raced Bytes)) k t result k',
      (fetchWithRetry policy fetch).Trace t result →
      Answering.Follows Token.answers k t k' → k'.asked = true →
      ∃ calls outcome, Retried (fun _ => do return orCanceled (← fetch))
          policy.attempts k t outcome k' calls ∧
        CanceledBy (fun _ => .fetch) policy.attempts calls result) ∧
    ∀ medium localPath remotePath k cause, k.asked = false → cause ≠ .canceled → ∃ t k',
      (saveWithRetry policy medium localPath remotePath).Trace t
        (.error (.saveFailed policy.attempts cause)) ∧
      Answering.Follows Token.answers k t k' ∧ k'.asked = true := by
  refine ⟨fun medium localPath remotePath k t result k' run follows asked => ?_,
    fun fetch k t result k' run follows asked => ?_,
    fun medium localPath remotePath k cause unasked own => ?_⟩
  · obtain ⟨outcome, tried, told⟩ := saveWithRetry_trace_iff.mp run
    obtain ⟨calls, retried⟩ := withRetry_retried tried follows
    exact ⟨calls, outcome, retried, retried.canceledBy nofun asked told⟩
  · obtain ⟨outcome, tried, told⟩ := fetchWithRetry_trace_iff.mp run
    obtain ⟨calls, retried⟩ := withRetry_retried tried follows
    exact ⟨calls, outcome, retried, retried.canceledBy nofun asked told⟩
  · obtain ⟨t, k', tried, follows, asked⟩ := exists_overlooked cause unasked 0 (policy.attempts - 1)
    have all : 0 + (policy.attempts - 1) + 1 = policy.attempts := by
      unfold RetryPolicy.attempts
      omega
    rw [all] at tried
    exact ⟨t, k', saveWithRetry_trace_iff.mpr ⟨_, tried, .failed _ own⟩, follows, asked⟩

/-- A save that is tried once and whose task is canceled while the connection breaks down is told as
failed, and so is such a fetch. -/
theorem cancellation_is_overlooked :
    (∃ t k', (saveWithRetry .none (.backend 0) "cache.bin" "out.bin").Trace t
        (.error (.saveFailed 1 (.network "reset"))) ∧
      Answering.Follows Token.answers ⟨false, []⟩ t k' ∧ k'.asked = true) ∧
    ∃ t k', (fetchWithRetry .none (Job.request (.fetchChunk "doc" 0 4))).Trace t
        (.error (.fetch (.network "reset"))) ∧
      Answering.Follows Token.answers ⟨false, []⟩ t k' ∧ k'.asked = true := by
  constructor
  · refine ⟨[⟨.canceled, false⟩, ⟨.save (.backend 0) "cache.bin" "out.bin", .error (.network "reset")⟩],
      ⟨true, []⟩, ?_, ?_, rfl⟩
    · have failed : (Job.request (.save (.backend 0) "cache.bin" "out.bin")).Trace
          [⟨.save (.backend 0) "cache.bin" "out.bin", .error (.network "reset")⟩]
          (.error (.network "reset")) := request_trace_iff.mpr rfl
      exact saveWithRetry_trace_iff.mpr ⟨_, tryFrom_of_failed failed, .failed 1 nofun⟩
    · exact ⟨_, ⟨rfl, rfl⟩, _, ⟨true, rfl, False.elim⟩, rfl⟩
  · refine ⟨[⟨.canceled, false⟩, ⟨.fetchChunk "doc" 0 4, some (.error (.network "reset"))⟩],
      ⟨true, []⟩, ?_, ?_, rfl⟩
    · have failed : Job.Trace (do return orCanceled (← Job.request (.fetchChunk "doc" 0 4)))
          [⟨.fetchChunk "doc" 0 4, some (.error (.network "reset"))⟩] (.error (.network "reset")) :=
        .ask _ (.done _)
      exact fetchWithRetry_trace_iff.mpr ⟨_, tryFrom_of_failed failed, .failed 1 nofun⟩
    · exact ⟨_, ⟨rfl, rfl⟩, _, ⟨true, rfl, nofun⟩, rfl⟩

end Courier
