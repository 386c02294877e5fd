import Courier.Transfer.Reader

/-! The reader in words of 64 bits. Sizes and offsets come from outside, and a sum of them may be more
than a word holds: a checked build stops there for good, an unchecked one goes on with a wrong number. -/
namespace Courier

/-- Words hold the numbers below this one. -/
def wordLimit : Nat := UInt64.size

/-- What becomes of a result that no word holds. -/
inductive Overflow where
  /-- The work stops for good. -/
  | stops
  /-- The result wraps around. -/
  | wraps
  deriving DecidableEq, Repr

namespace Overflow

def add (overflow : Overflow) (a b : Nat) : Option Nat :=
  if a + b < wordLimit then some (a + b)
  else match overflow with
    | stops => none
    | wraps => some (a + b - wordLimit)

def sub (overflow : Overflow) (a b : Nat) : Option Nat :=
  if b ≤ a then some (a - b)
  else match overflow with
    | stops => none
    | wraps => some (a + wordLimit - b)

end Overflow

namespace Words

variable (overflow : Overflow)

/-- The chunks that cover a range; nothing where the work stops. -/
def cover (start stop size : Nat) : Option Parts := do
  let offset ← overflow.sub start (start % size)
  let firstCut ← overflow.sub start offset
  let lastCut ← overflow.add (stop % size) 1
  let span ← overflow.sub stop offset
  let rounded ← overflow.add span size
  return { offset, firstCut, lastCut, count := rounded / size, current := 1 }

def advance (parts : Parts) (size : Nat) : Option Parts := do
  let current ← overflow.add parts.current 1
  let offset ← overflow.add parts.offset size
  return { parts with current, offset }

def take (parts : Parts) (chunk : Bytes) (size : Nat) : Option (Bytes × Parts) := do
  if chunk.size = 0 then return (chunk, parts)
  return (parts.trim chunk, ← advance overflow parts size)

def untilNext (t : Throttle) (read : Nat) : Option Nat := do
  let next ← overflow.add t.lastReported t.interval
  return min next t.total - read

/-- A reader of a range. It is made for chunks of the usual size, and then for those of its own. -/
def range (location : String) (start stop length size : Nat) : Option Reader := do
  let _ ← cover overflow start stop chunkSize
  let parts ← cover overflow start stop (max size 1)
  return { Reader.range location start stop length size with parts }

def whole (file : RemoteFile) (size : Nat) : Option Reader :=
  range overflow file.location 0 (file.size - 1) file.size size

/-- Work that may stop for good. -/
abbrev Work := OptionT Job

def fetchNext (r : Reader) : Work (Except TransferError Bytes × Reader) :=
  match r.parts.pending? with
  | none => return (.ok ByteArray.empty, r)
  | some offset => do
    match ← fetchWithRetry r.policy (Job.request (.fetchChunk r.location offset r.chunkSize)) with
    | .error e => return (.error e, r)
    | .ok chunk =>
      let (part, parts) ← (take overflow r.parts chunk r.chunkSize).getM
      return (.ok part, { r with parts })

def restart (r : Reader) : Option Reader := do
  return { r with parts := ← cover overflow r.start r.stop r.chunkSize }

def refillAnew (r : Reader) : Work (Except TransferError Unit × Reader) := do
  match ← fetchNext overflow (← (restart overflow r).getM) with
  | (.error e, r) => return (.error e, r)
  | (.ok part, r) =>
    let r := { r with buffer := part }
    if part.size ≠ 0 then return (.ok (), { r with cursor := 0 })
    else return (.error (.shortRead r.length r.bytesRead), r)

def refill (r : Reader) : Work (Except TransferError Unit × Reader) := do
  match ← fetchNext overflow r with
  | (.error e, r) => return (.error e, r)
  | (.ok part, r) =>
    if part.size ≠ 0 then return (.ok (), { r with buffer := part, cursor := 0 })
    else refillAnew overflow { r with buffer := part }

def portion (r : Reader) (room : Nat) : Option Nat := do
  let n := min (min (r.buffer.size - r.cursor) room) (r.length - r.bytesRead)
  match r.progress with
  | none => return n
  | some (throttle, _) =>
    let next ← untilNext overflow throttle r.bytesRead
    return if next > 0 then min n next else n

def consume (r : Reader) (room : Nat) : Work (Except TransferError Bytes × Reader) := do
  let n ← (portion overflow r room).getM
  let bytesRead ← (overflow.add r.bytesRead n).getM
  let out := r.buffer.extract r.cursor (r.cursor + n)
  let r ← ({ r with cursor := r.cursor + n, bytesRead }).report
  return (.ok out, r)

def read (r : Reader) (room : Nat) : Work (Except TransferError Bytes × Reader) := do
  if r.bytesRead ≥ r.length ∨ room = 0 then return (.ok ByteArray.empty, r)
  if r.cursor < r.buffer.size then consume overflow r room
  else
    match ← refill overflow r with
    | (.error e, r) => return (.error e, r)
    | (.ok (), r) => consume overflow r room

/-- Reads and writes until the range ends; `reads` bounds how often. -/
def copyLoop {σ : Type} (sink : Reader.Sink σ) (r : Reader) (s : σ) (written : Nat) : (reads : Nat) →
    Work (Except TransferError Nat × Reader × σ)
  | 0 => return (.ok written, r, s)
  | reads + 1 => do
    match ← read overflow r Reader.copyRoom with
    | (.error e, r) => return (.error e, r, s)
    | (.ok bytes, r) =>
      if bytes.size = 0 then
        match ← sink.flush s with
        | (.error e, s) => return (.error (.call (.os e)), r, s)
        | (.ok (), s) => return (.ok written, r, s)
      else
        match ← sink.write s bytes with
        | (.error e, s) => return (.error (.call (.os e)), r, s)
        | (.ok (), s) => copyLoop sink r s (← (overflow.add written bytes.size).getM) reads

def copyTo {σ : Type} (sink : Reader.Sink σ) (r : Reader) (s : σ) :
    Work (Except TransferError Nat × Reader × σ) :=
  copyLoop overflow sink r s 0 (r.length - r.bytesRead + 1)

end Words

end Courier
