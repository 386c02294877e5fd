/-! When a transfer reports: at every full interval and at its last byte. -/
namespace Courier

/-- About one hundred reports for each transfer. -/
def progressInterval (length : Nat) : Nat :=
  max (length / 100) 1

structure Throttle where
  interval : Nat
  total : Nat
  lastReported : Nat
  deriving DecidableEq, Repr

namespace Throttle

def new (interval total : Nat) : Throttle :=
  ⟨max interval 1, total, 0⟩

/-- Bytes that may be read before the next report is due. -/
def untilNext (t : Throttle) (read : Nat) : Nat :=
  min (t.lastReported + t.interval) t.total - read

def due (t : Throttle) (read : Nat) : Bool :=
  t.lastReported < read && (t.interval ≤ read - t.lastReported || read == t.total)

/-- Takes note of a count; true when a report is due. -/
def observe (t : Throttle) (read : Nat) : Bool × Throttle :=
  if t.due read then (true, { t with lastReported := read }) else (false, t)

end Throttle

end Courier
