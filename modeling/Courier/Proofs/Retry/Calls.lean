import Courier.Proofs.Job.Cancellation
import Courier.Proofs.Retry.Attempts

/-! The calls of an operation that is tried again while its task may be canceled: how many of them there
are, which of them fail, and what the last one and the cancellation make of the result. -/
namespace Courier

variable {α ε : Type} {attempt : Nat → Job (Except ε α)}

/-- A call of an operation, with the cancellation before it and after it. -/
structure Call (ε α : Type) where
  number : Nat
  before : Token
  /-- What was asked and answered on its way. -/
  way : List Exchange
  outcome : Except ε α
  after : Token

/-- Whether a call was made of an operation whose task was not canceled by then. -/
structure Call.Made (attempt : Nat → Job (Except ε α)) (c : Call ε α) : Prop where
  unasked : c.before.asked = false
  run : (attempt c.number).Trace c.way c.outcome
  follows : Answering.Follows Token.answers c.before c.way c.after

/-- Calls one after another, numbered from a number on. -/
inductive Calls (attempt : Nat → Job (Except ε α)) : Nat → Token → List (Call ε α) → Token → Prop where
  | none (n : Nat) (k : Token) : Calls attempt n k [] k
  | more {n : Nat} {k k' : Token} {c : Call ε α} {calls : List (Call ε α)} (made : c.Made attempt)
      (number : c.number = n) (before : c.before = k) (others : Calls attempt (n + 1) c.after calls k') :
      Calls attempt n k (c :: calls) k'

/-- What is asked and answered on the way of calls; before each of them the task is found not canceled. -/
def wayOf (calls : List (Call ε α)) : List Exchange :=
  calls.flatMap fun c => ⟨.canceled, false⟩ :: c.way

/-- The look that finds the task canceled, where it comes to that. -/
def lastLook : Except (RetryError ε) α → List Exchange
  | .error (.canceled _) => [⟨.canceled, true⟩]
  | .error (.exhausted ..) | .ok _ => []

def AllFailed (calls : List (Call ε α)) : Prop :=
  ∀ c ∈ calls, ∃ e, c.outcome = .error e

/-- The contract of an operation that is tried again, with at most so many calls. -/
structure Retried (attempt : Nat → Job (Except ε α)) (budget : Nat) (k : Token) (t : List Exchange)
    (result : Except (RetryError ε) α) (k' : Token) (calls : List (Call ε α)) : Prop where
  made : Calls attempt 0 k calls k'
  numbers : calls.map Call.number = List.range calls.length
  unasked : ∀ c ∈ calls, c.before.asked = false
  within : calls.length ≤ budget
  failed : AllFailed calls.dropLast
  /-- Nothing is asked but by the calls and the looks. -/
  way : t = wayOf calls ++ lastLook result
  ok_iff : ∀ v, result = .ok v ↔ ∃ c, calls.getLast? = some c ∧ c.outcome = .ok v
  exhausted_iff : ∀ n e, result = .error (.exhausted n e) ↔
    n = calls.length ∧ n = budget ∧ ∃ c, calls.getLast? = some c ∧ c.outcome = .error e
  canceled_iff : ∀ n, result = .error (.canceled n) ↔
    n = calls.length ∧ n < budget ∧ AllFailed calls ∧ k'.asked = true

section Course

variable {n m : Nat} {k k' : Token} {c : Call ε α} {calls : List (Call ε α)} {t : List Exchange}

theorem wayOf_append (calls others : List (Call ε α)) :
    wayOf (calls ++ others) = wayOf calls ++ wayOf others :=
  List.flatMap_append

theorem wayOf_singleton (c : Call ε α) : wayOf [c] = ⟨.canceled, false⟩ :: c.way :=
  List.append_nil _

theorem calls_concat : Calls attempt n k (calls ++ [c]) k' ↔
    Calls attempt n k calls c.before ∧ c.number = n + calls.length ∧ c.Made attempt ∧
      k' = c.after := by
  constructor
  · intro all
    induction calls generalizing n k with
    | nil =>
      cases all with
      | more made number before others =>
        cases others
        exact ⟨before ▸ .none n c.before, number, made, rfl⟩
    | cons first calls ih =>
      cases all with
      | more made number before others =>
        obtain ⟨front, last, made', rfl⟩ := ih others
        refine ⟨.more made number before front, ?_, made', rfl⟩
        rw [last, List.length_cons, Nat.add_right_comm, Nat.add_assoc]
  · rintro ⟨front, number, made, rfl⟩
    generalize before : c.before = m at front
    induction front with
    | none n k => exact .more made number before (.none _ _)
    | more first at_ was _ ih =>
      refine .more first at_ was (ih ?_ before)
      rw [number, List.length_cons, Nat.add_right_comm, Nat.add_assoc]

theorem Calls.numbers (all : Calls attempt n k calls k') :
    calls.map Call.number = List.range' n calls.length := by
  induction all with
  | none n k => rfl
  | more made number before _ ih => rw [List.map_cons, ih, number, List.length_cons, List.range'_succ]

theorem Calls.made (all : Calls attempt n k calls k') : ∀ c ∈ calls, c.Made attempt := by
  induction all with
  | none n k => exact List.forall_mem_nil _
  | more made number before _ ih => exact List.forall_mem_cons.mpr ⟨made, ih⟩

theorem Calls.follows (all : Calls attempt n k calls k') :
    Answering.Follows Token.answers k (wayOf calls) k' := by
  induction all with
  | none n k => rfl
  | @more _ _ _ c calls made number before _ ih =>
    subst before
    refine ⟨c.before, ⟨made.unasked.symm, rfl⟩, ?_⟩
    exact Answering.follows_append.mpr ⟨c.after, made.follows, ih⟩

theorem Failures.le (failures : Failures attempt n m t) : n ≤ m := by
  induction failures with
  | none n => exact Nat.le_refl n
  | more _ _ ih => exact Nat.le_of_succ_le ih

theorem Failures.exists_calls (failures : Failures attempt n m t)
    (follows : Answering.Follows Token.answers k t k') :
    ∃ calls, Calls attempt n k calls k' ∧ n + calls.length = m ∧ t = wayOf calls ∧ AllFailed calls := by
  induction failures generalizing k with
  | none n =>
    obtain rfl : k' = k := follows
    exact ⟨[], .none n k', rfl, rfl, List.forall_mem_nil _⟩
  | @more n m t rest e failed _ ih =>
    obtain ⟨m, ⟨unasked, rfl⟩, follows⟩ := follows
    obtain ⟨k₁, follows₁, follows₂⟩ := Answering.follows_append.mp follows
    obtain ⟨calls, all, many, rfl, others⟩ := ih follows₂
    refine ⟨⟨n, m, t, .error e, k₁⟩ :: calls, .more ⟨unasked.symm, failed, follows₁⟩ rfl rfl all, ?_,
      rfl, List.forall_mem_cons.mpr ⟨⟨e, rfl⟩, others⟩⟩
    rw [List.length_cons, ← many, Nat.add_right_comm, Nat.add_assoc]

theorem Calls.failures (all : Calls attempt n k calls k') (failed : AllFailed calls) :
    Failures attempt n (n + calls.length) (wayOf calls) := by
  induction all with
  | none n k => exact .none n
  | @more n _ _ c calls made number before _ ih =>
    obtain ⟨e, outcome⟩ := failed c List.mem_cons_self
    have run := made.run
    rw [number, outcome] at run
    rw [List.length_cons, ← Nat.add_assoc, Nat.add_right_comm]
    exact .more run (ih fun c hc => failed c (List.mem_cons_of_mem _ hc))

end Course

section Rounds

variable {n number spare : Nat} {t t₁ t₂ : List Exchange} {result : Except (RetryError ε) α}

theorem round_of_ends {g : ε → Job (Except (RetryError ε) α)} (ends : Ends attempt n t result)
    (given : ∀ made e, result ≠ .error (.exhausted made e)) :
    Job.Trace (do
      if ← Job.request .canceled then return .error (.canceled n)
      match ← attempt n with
      | .ok a => return .ok a
      | .error e => g e) t result := by
  simp only [Job.bind_eq, Job.request, Job.ask_bind, Job.done_bind, Job.trace_ask]
  rcases result with (made | ⟨made, e⟩) | a
  · obtain ⟨rfl, rfl⟩ := ends
    exact ⟨true, [], rfl, .done _⟩
  · exact absurd rfl (given made e)
  · obtain ⟨last, rfl, made⟩ := ends
    exact ⟨false, last, rfl,
      Job.trace_bind.mpr ⟨.ok a, last, [], (List.append_nil _).symm, made, .done _⟩⟩

theorem round_of_failed {g : ε → Job (Except (RetryError ε) α)} {e : ε}
    (failed : (attempt n).Trace t₁ (.error e)) (rest : (g e).Trace t₂ result) :
    Job.Trace (do
      if ← Job.request .canceled then return .error (.canceled n)
      match ← attempt n with
      | .ok a => return .ok a
      | .error e => g e) (⟨.canceled, false⟩ :: (t₁ ++ t₂)) result := by
  simp only [Job.bind_eq, Job.request, Job.ask_bind, Job.done_bind, Job.trace_ask]
  exact ⟨false, _, rfl, Job.trace_bind.mpr ⟨.error e, t₁, t₂, rfl, failed, rest⟩⟩

theorem tryFrom_of_failed {e : ε} (failed : (attempt number).Trace t (.error e)) :
    (tryFrom attempt number 0).Trace (⟨.canceled, false⟩ :: t) (.error (.exhausted (number + 1) e)) := by
  have given := round_of_failed (g := fun e => .done (.error (.exhausted (number + 1) e))) failed (.done _)
  rwa [List.append_nil] at given

theorem tryFrom_of_others {e : ε} (failed : (attempt number).Trace t₁ (.error e))
    (others : (tryFrom attempt (number + 1) spare).Trace t₂ result) :
    (tryFrom attempt number (spare + 1)).Trace (⟨.canceled, false⟩ :: (t₁ ++ t₂)) result :=
  round_of_failed (g := fun _ => tryFrom attempt (number + 1) spare) failed others

/-- Attempts that fail and end in a row are what is tried, if there are no more than may be made. -/
theorem tryFrom_of_failures {front last : List Exchange} (failures : Failures attempt number n front)
    (ends : Ends attempt n last result) (within : n ≤ number + spare)
    (spent : ∀ made e, result = .error (.exhausted made e) → n = number + spare) :
    (tryFrom attempt number spare).Trace (front ++ last) result := by
  induction failures generalizing spare with
  | none n =>
    rcases result with (made | ⟨made, e⟩) | a
    · cases spare <;> exact round_of_ends ends nofun
    · -- The attempts are given up, so that none is to spare.
      obtain rfl : spare = 0 := by
        have := spent made e rfl
        omega
      obtain ⟨rfl, last, rfl, failed⟩ := ends
      exact tryFrom_of_failed failed
    · cases spare <;> exact round_of_ends ends nofun
  | @more number n t rest e failed others ih =>
    have later : number + 1 ≤ n := others.le
    obtain ⟨spare, rfl⟩ : ∃ fewer, spare = fewer + 1 := Nat.exists_eq_succ_of_ne_zero (by omega)
    have next : (tryFrom attempt (number + 1) spare).Trace (rest ++ last) result := by
      refine ih ends (by omega) fun made e given => ?_
      have := spent made e given
      omega
    rw [List.cons_append, List.append_assoc]
    exact tryFrom_of_others failed next

end Rounds

section Result

variable {budget : Nat} {k k' : Token} {calls : List (Call ε α)}

theorem Calls.retried_canceled (all : Calls attempt 0 k calls k') (failed : AllFailed calls)
    (few : calls.length < budget) (asked : k'.asked = true) :
    Retried attempt budget k (wayOf calls ++ [⟨.canceled, true⟩])
      (.error (.canceled calls.length)) k' calls where
  made := all
  numbers := by rw [all.numbers, List.range_eq_range']
  unasked c hc := (all.made c hc).unasked
  within := Nat.le_of_lt few
  failed c hc := failed c ((List.dropLast_sublist _).mem hc)
  way := rfl
  ok_iff v := by
    refine ⟨nofun, fun ⟨c, last, good⟩ => ?_⟩
    obtain ⟨e, bad⟩ := failed c (List.mem_of_getLast? last)
    exact absurd (good.symm.trans bad) nofun
  exhausted_iff n e := by
    refine ⟨nofun, fun ⟨many, spent, _⟩ => ?_⟩
    exact absurd (many.symm.trans spent) (Nat.ne_of_lt few)
  canceled_iff n := by
    constructor
    · rintro ⟨⟩
      exact ⟨rfl, few, failed, asked⟩
    · rintro ⟨rfl, -⟩
      rfl

/-- How a last call ends the attempts: it succeeds, or it fails and no more may be made. -/
def Call.EndsAll (c : Call ε α) (budget : Nat) (result : Except (RetryError ε) α) : Prop :=
  (∃ a, c.outcome = .ok a ∧ result = .ok a) ∨
    c.number + 1 = budget ∧ ∃ e, c.outcome = .error e ∧ result = .error (.exhausted budget e)

theorem Calls.retried_ended {c : Call ε α} {result : Except (RetryError ε) α}
    (all : Calls attempt 0 k (calls ++ [c]) k') (failed : AllFailed calls)
    (few : calls.length < budget) (ends : c.EndsAll budget result) :
    Retried attempt budget k (wayOf (calls ++ [c])) result k' (calls ++ [c]) := by
  have many : (calls ++ [c]).length = calls.length + 1 := List.length_append
  have last : (calls ++ [c]).getLast? = some c := List.getLast?_concat
  have number : c.number = calls.length := by
    rw [(calls_concat.mp all).2.1, Nat.zero_add]
  refine {
    made := all
    numbers := by rw [all.numbers, List.range_eq_range']
    unasked := fun c hc => (all.made c hc).unasked
    within := many ▸ few
    failed := by rwa [List.dropLast_concat]
    way := ?way
    ok_iff := fun v => ?ok_iff
    exhausted_iff := fun n e => ?exhausted_iff
    canceled_iff := fun n => ?canceled_iff }
  all_goals
    rw [Call.EndsAll, number] at ends
    obtain ⟨a, good, rfl⟩ | ⟨spent, e, bad, rfl⟩ := ends
  case way.inl | way.inr => exact (List.append_nil _).symm
  case ok_iff.inl => simp [last, good]
  case ok_iff.inr => simp [last, bad]
  case exhausted_iff.inl => simp [last, good]
  case exhausted_iff.inr => simp [last, bad, many, spent, eq_comm]
  case canceled_iff.inl =>
    refine ⟨nofun, fun ⟨_, _, bad, _⟩ => ?_⟩
    obtain ⟨e, bad⟩ := bad c (by simp)
    exact absurd (good.symm.trans bad) nofun
  case canceled_iff.inr =>
    refine ⟨nofun, fun ⟨all, fewer, _⟩ => ?_⟩
    omega

end Result

theorem withRetry_retried {policy : RetryPolicy} {k k' : Token} {t : List Exchange}
    {result : Except (RetryError ε) α} (run : (withRetry policy attempt).Trace t result)
    (follows : Answering.Follows Token.answers k t k') :
    ∃ calls, Retried attempt policy.attempts k t result k' calls := by
  obtain ⟨n, front, last, rfl, failures, ends, few, spent⟩ := withRetry_trace run
  obtain ⟨m, follows₁, follows₂⟩ := Answering.follows_append.mp follows
  obtain ⟨calls, all, many, rfl, failed⟩ := failures.exists_calls follows₁
  rw [Nat.zero_add] at many
  subst many
  rcases result with (made | ⟨made, e⟩) | a
  · obtain ⟨rfl, rfl⟩ := ends
    obtain ⟨_, ⟨asked, rfl⟩, rfl⟩ := follows₂
    exact ⟨calls, all.retried_canceled failed few asked.symm⟩
  · obtain ⟨rfl, last, rfl, made⟩ := ends
    obtain ⟨_, ⟨unasked, rfl⟩, follows⟩ := follows₂
    have spent : calls.length + 1 = policy.attempts := spent _ e rfl
    have concat : Calls attempt 0 k (calls ++ [⟨calls.length, _, last, .error e, k'⟩]) k' :=
      calls_concat.mpr ⟨all, (Nat.zero_add _).symm, ⟨unasked.symm, made, follows⟩, rfl⟩
    have retried := concat.retried_ended failed few (Or.inr ⟨spent, e, rfl, rfl⟩)
    rw [wayOf_append, wayOf_singleton] at retried
    rw [spent]
    exact ⟨_, retried⟩
  · obtain ⟨last, rfl, made⟩ := ends
    obtain ⟨_, ⟨unasked, rfl⟩, follows⟩ := follows₂
    have concat : Calls attempt 0 k (calls ++ [⟨calls.length, _, last, .ok a, k'⟩]) k' :=
      calls_concat.mpr ⟨all, (Nat.zero_add _).symm, ⟨unasked.symm, made, follows⟩, rfl⟩
    have retried := concat.retried_ended failed few (Or.inl ⟨a, rfl, rfl⟩)
    rw [wayOf_append, wayOf_singleton] at retried
    exact ⟨_, retried⟩

section Retried

variable {policy : RetryPolicy} {budget : Nat} {k k' : Token} {t : List Exchange}
  {result : Except (RetryError ε) α} {calls : List (Call ε α)}

theorem Retried.follows (retried : Retried attempt budget k t result k' calls) :
    Answering.Follows Token.answers k t k' := by
  rw [retried.way]
  refine Answering.follows_append.mpr ⟨k', retried.made.follows, ?_⟩
  rcases result with (n | ⟨n, e⟩) | a
  · obtain ⟨-, -, -, asked⟩ := (retried.canceled_iff n).mp rfl
    exact ⟨k', ⟨asked.symm, rfl⟩, rfl⟩
  · rfl
  · rfl

/-- The calls before the last one failed, and the last one is an attempt with their number. -/
theorem Retried.last_call {c : Call ε α} (retried : Retried attempt budget k t result k' calls)
    (last : calls.getLast? = some c) : ∃ front : List (Call ε α), calls = front ++ [c] ∧
      Failures attempt 0 front.length (wayOf front) ∧
      (attempt front.length).Trace c.way c.outcome := by
  obtain ⟨front, rfl⟩ := List.getLast?_eq_some_iff.mp last
  have failed := retried.failed
  rw [List.dropLast_concat] at failed
  obtain ⟨all, number, made, -⟩ := calls_concat.mp retried.made
  rw [Nat.zero_add] at number
  have failures := all.failures failed
  rw [Nat.zero_add] at failures
  exact ⟨front, rfl, failures, number ▸ made.run⟩

theorem Retried.run (retried : Retried attempt policy.attempts k t result k' calls) :
    (withRetry policy attempt).Trace t result := by
  rw [retried.way]
  rcases result with (n | ⟨n, e⟩) | a
  · obtain ⟨rfl, few, failed, -⟩ := (retried.canceled_iff n).mp rfl
    have failures := retried.made.failures failed
    rw [Nat.zero_add] at failures
    exact tryFrom_of_failures failures ⟨rfl, rfl⟩ (by omega) nofun
  · obtain ⟨many, spent, c, last, bad⟩ := (retried.exhausted_iff n e).mp rfl
    obtain ⟨front, rfl, failures, run⟩ := retried.last_call last
    rw [List.length_append, List.length_singleton] at many
    rw [wayOf_append, wayOf_singleton, lastLook, List.append_nil]
    exact tryFrom_of_failures failures ⟨many, _, rfl, bad ▸ run⟩ (by omega) fun _ _ _ => by omega
  · obtain ⟨c, last, good⟩ := (retried.ok_iff a).mp rfl
    obtain ⟨front, rfl, failures, run⟩ := retried.last_call last
    have within := retried.within
    rw [List.length_append, List.length_singleton] at within
    rw [wayOf_append, wayOf_singleton, lastLook, List.append_nil]
    exact tryFrom_of_failures failures ⟨_, rfl, good ▸ run⟩ (by omega) nofun

theorem Retried.of_asked (retried : Retried attempt policy.attempts k t result k' calls)
    (asked : k.asked = true) : t = [⟨.canceled, true⟩] ∧ result = .error (.canceled 0) := by
  have some_attempt : 0 < policy.attempts := by
    unfold RetryPolicy.attempts
    omega
  cases retried.made with
  | none =>
    obtain rfl : result = .error (.canceled 0) :=
      (retried.canceled_iff 0).mpr ⟨rfl, some_attempt, List.forall_mem_nil _, asked⟩
    exact ⟨retried.way, rfl⟩
  | more made number before _ =>
    rw [← before, made.unasked] at asked
    contradiction

end Retried

/-- What is told of an operation that was tried again. -/
inductive Surfaces (tell : Nat → CallError → TransferError) :
    Except (RetryError CallError) α → Except TransferError α → Prop where
  | ok (a : α) : Surfaces tell (.ok a) (.ok a)
  | stopped (n : Nat) : Surfaces tell (.error (.canceled n)) (.error .canceled)
  | canceled (n : Nat) : Surfaces tell (.error (.exhausted n .canceled)) (.error .canceled)
  | failed (n : Nat) {e : CallError} (plain : e ≠ .canceled) :
      Surfaces tell (.error (.exhausted n e)) (.error (tell n e))

theorem Surfaces.unique {tell : Nat → CallError → TransferError}
    {outcome : Except (RetryError CallError) α} {result result' : Except TransferError α}
    (told : Surfaces tell outcome result) (told' : Surfaces tell outcome result') : result = result' := by
  cases told with
  | ok | stopped =>
    cases told'
    rfl
  | canceled =>
    cases told' with
    | canceled => rfl
    | failed _ plain => exact absurd rfl plain
  | failed _ plain =>
    cases told' with
    | canceled => exact absurd rfl plain
    | failed => rfl

theorem surfaces_exhausted (tell : Nat → CallError → TransferError) (n : Nat) (e : CallError) :
    Surfaces tell (.error (.exhausted n e) : Except _ α)
      (.error (if e.isCanceled then .canceled else tell n e)) := by
  split
  · next canceled =>
    rw [isCanceled_iff.mp canceled]
    exact .canceled n
  · next plain => exact .failed n fun canceled => plain (isCanceled_iff.mpr canceled)

section Surfacing

variable {policy : RetryPolicy} {t : List Exchange}

theorem trace_bind_told {tell : Nat → CallError → TransferError}
    {job : Job (Except (RetryError CallError) α)}
    {finish : Except (RetryError CallError) α → Job (Except TransferError α)}
    {result : Except TransferError α}
    (tells : ∀ outcome, ∃ result, finish outcome = .done result ∧ Surfaces tell outcome result) :
    (job.bind finish).Trace t result ↔
      ∃ outcome, job.Trace t outcome ∧ Surfaces tell outcome result := by
  rw [Job.trace_bind]
  constructor
  · rintro ⟨outcome, t, t₂, rfl, run, rest⟩
    obtain ⟨result', same, told⟩ := tells outcome
    rw [same] at rest
    obtain ⟨rfl, rfl⟩ := Job.trace_done.mp rest
    rw [List.append_nil]
    exact ⟨outcome, run, told⟩
  · rintro ⟨outcome, run, told⟩
    obtain ⟨result', same, told'⟩ := tells outcome
    refine ⟨outcome, t, [], (List.append_nil t).symm, run, ?_⟩
    rw [same, told.unique told']
    exact .done result'

theorem saveWithRetry_trace_iff {medium : Medium} {localPath remotePath : String}
    {result : Except TransferError Unit} :
    (saveWithRetry policy medium localPath remotePath).Trace t result ↔ ∃ outcome,
      (withRetry policy fun _ => Job.request (.save medium localPath remotePath)).Trace t outcome ∧
        Surfaces .saveFailed outcome result := by
  refine trace_bind_told fun outcome => ?_
  rcases outcome with (n | ⟨n, e⟩) | ⟨⟩
  · exact ⟨_, rfl, .stopped n⟩
  · exact ⟨_, rfl, surfaces_exhausted ..⟩
  · exact ⟨_, rfl, .ok ()⟩

theorem fetchWithRetry_trace_iff {fetch : Job (Request.Raced Bytes)}
    {result : Except TransferError Bytes} :
    (fetchWithRetry policy fetch).Trace t result ↔ ∃ outcome,
      (withRetry policy fun _ => do return orCanceled (← fetch)).Trace t outcome ∧
        Surfaces (fun _ => .fetch) outcome result := by
  refine trace_bind_told fun outcome => ?_
  rcases outcome with (n | ⟨n, e⟩) | bytes
  · exact ⟨_, rfl, .stopped n⟩
  · exact ⟨_, rfl, surfaces_exhausted (fun _ => .fetch) n e⟩
  · exact ⟨_, rfl, .ok bytes⟩

end Surfacing

theorem request_trace_iff {r : Request} {t : List Exchange} {reply : r.Reply} :
    (Job.request r).Trace t reply ↔ t = [⟨r, reply⟩] := by
  simp only [Job.request, Job.trace_ask, Job.trace_done]
  constructor
  · rintro ⟨reply, _, rfl, rfl, rfl⟩
    rfl
  · rintro rfl
    exact ⟨reply, [], rfl, rfl, rfl⟩

/-- An operation that is tried again is called with the numbers from zero on, at most as often as the
policy has attempts and never when its task is canceled; each call but the last one failed. A last call
that succeeds is the result, whatever the cancellation does meanwhile, and one that fails is given up
when no attempts are left; else the cancellation ends it, at once where it was there at the beginning.
Every such course is possible. Saves that are tried again are such calls, and the last error is told
with the number of attempts unless it is that of a cancellation. -/
theorem retried_by_contract (policy : RetryPolicy) :
    policy.attempts = min (policy.extra + 1) (UInt32.size - 1) ∧
    (∀ (α ε : Type) (attempt : Nat → Job (Except ε α)) (k : Token),
      (∃ t result k', (withRetry policy attempt).Trace t result ∧
        Answering.Follows Token.answers k t k') ∧
      (∀ t result k', (withRetry policy attempt).Trace t result ∧
          Answering.Follows Token.answers k t k' ↔
        ∃ calls, Retried attempt policy.attempts k t result k' calls) ∧
      (k.asked = true → ∀ t result k', (withRetry policy attempt).Trace t result →
        Answering.Follows Token.answers k t k' →
          t = [⟨.canceled, true⟩] ∧ result = .error (.canceled 0))) ∧
    ∀ medium localPath remotePath k t result k',
      (saveWithRetry policy medium localPath remotePath).Trace t result ∧
          Answering.Follows Token.answers k t k' ↔
        ∃ calls outcome, Retried (fun _ => Job.request (.save medium localPath remotePath))
            policy.attempts k t outcome k' calls ∧
          (∀ c ∈ calls, c.way = [⟨.save medium localPath remotePath, c.outcome⟩]) ∧
          Surfaces .saveFailed outcome result := by
  refine ⟨rfl, fun α ε attempt k => ⟨?_, fun t result k' => ⟨?_, ?_⟩, ?_⟩,
    fun medium localPath remotePath k t result k' => ⟨?_, ?_⟩⟩
  · obtain ⟨t, result, k', run, follows⟩ :=
      Job.exists_trace Token.exists_answer (withRetry policy attempt) k
    exact ⟨t, result, k', run, follows⟩
  · rintro ⟨run, follows⟩
    exact withRetry_retried run follows
  · rintro ⟨calls, retried⟩
    exact ⟨retried.run, retried.follows⟩
  · intro asked t result k' run follows
    obtain ⟨calls, retried⟩ := withRetry_retried run follows
    exact retried.of_asked asked
  · rintro ⟨run, follows⟩
    obtain ⟨outcome, tried, told⟩ := saveWithRetry_trace_iff.mp run
    obtain ⟨calls, retried⟩ := withRetry_retried tried follows
    refine ⟨calls, outcome, retried, fun c hc => ?_, told⟩
    exact request_trace_iff.mp (retried.made.made c hc).run
  · rintro ⟨calls, outcome, retried, -, told⟩
    exact ⟨saveWithRetry_trace_iff.mpr ⟨outcome, retried.run, told⟩, retried.follows⟩

end Courier
