/-! A fixed number of permits, until it is closed. -/
namespace Courier

structure Limiter where
  slots : Nat
  held : Nat
  closed : Bool
  deriving DecidableEq, Repr

inductive Acquired where
  | granted
  | blocked
  | closed
  deriving DecidableEq, Repr

namespace Limiter

def new (slots : Nat) : Limiter :=
  ⟨max slots 1, 0, false⟩

def acquire (l : Limiter) : Acquired × Limiter :=
  if l.closed then (.closed, l)
  else if l.held < l.slots then (.granted, { l with held := l.held + 1 })
  else (.blocked, l)

def release (l : Limiter) : Limiter :=
  { l with held := l.held - 1 }

def close (l : Limiter) : Limiter :=
  { l with closed := true }

end Limiter

end Courier
