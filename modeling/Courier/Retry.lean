import Courier.Transfer.Job

/-! Trying a failed operation again, at once and a bounded number of times. The task's cancellation
is looked at before every attempt. -/
namespace Courier

structure RetryPolicy where
  /-- Attempts after the first one. -/
  extra : Nat
  deriving DecidableEq, Repr

namespace RetryPolicy

def none : RetryPolicy := ⟨0⟩
def standard : RetryPolicy := ⟨3⟩

/-- All attempts; the count of attempts has 32 bits. -/
def attempts (policy : RetryPolicy) : Nat :=
  min (policy.extra + 1) 0xFFFFFFFF

end RetryPolicy

inductive RetryError (ε : Type) where
  /-- The cancellation came before an attempt. -/
  | canceled (attempts : Nat)
  /-- Every attempt failed, the last one with this error. -/
  | exhausted (attempts : Nat) (last : ε)
  deriving DecidableEq, Repr

def RetryError.attempts {ε : Type} : RetryError ε → Nat
  | canceled attempts => attempts
  | exhausted attempts _ => attempts

/-- What an operation that was tried again comes to, in words. -/
def RetryError.message {ε : Type} (describe : ε → String) : RetryError ε → String
  | canceled attempts => "canceled after " ++ toString attempts ++ " attempt(s)"
  | exhausted attempts last =>
    "gave up after " ++ toString attempts ++ " attempt(s): " ++ describe last

variable {α ε : Type}

/-- Makes the attempt of a number, and while it fails up to `spare` more. -/
def tryFrom (attempt : Nat → Job (Except ε α)) (number : Nat) : (spare : Nat) →
    Job (Except (RetryError ε) α)
  | 0 => do
    if ← Job.request .canceled then return .error (.canceled number)
    match ← attempt number with
    | .ok a => return .ok a
    | .error e => return .error (.exhausted (number + 1) e)
  | spare + 1 => do
    if ← Job.request .canceled then return .error (.canceled number)
    match ← attempt number with
    | .ok a => return .ok a
    | .error _ => tryFrom attempt (number + 1) spare

def withRetry (policy : RetryPolicy) (attempt : Nat → Job (Except ε α)) :
    Job (Except (RetryError ε) α) :=
  tryFrom attempt 0 (policy.attempts - 1)

/-- What a fetch given up for a cancellation comes to. -/
def orCanceled (reply : Request.Raced α) : Except CallError α :=
  reply.getD (.error .canceled)

/-- Saves a local file. A cancellation is told as such; else the last error comes with the number of
attempts. -/
def saveWithRetry (policy : RetryPolicy) (medium : Medium) (localPath remotePath : String) :
    Job (Except TransferError Unit) := do
  match ← withRetry policy fun _ => Job.request (.save medium localPath remotePath) with
  | .ok () => return .ok ()
  | .error (.canceled _) => return .error .canceled
  | .error (.exhausted attempts last) =>
    return .error (if last.isCanceled then .canceled else .saveFailed attempts last)

/-- Fetches bytes. A cancellation is told as such; else the last error comes as it is. -/
def fetchWithRetry (policy : RetryPolicy) (fetch : Job (Request.Raced Bytes)) :
    Job (Except TransferError Bytes) := do
  match ← withRetry policy fun _ => do return orCanceled (← fetch) with
  | .ok bytes => return .ok bytes
  | .error (.canceled _) => return .error .canceled
  | .error (.exhausted _ last) =>
    return .error (if last.isCanceled then .canceled else .fetch last)

end Courier
