import Courier.Progress
import Courier.Retry

/-! Reading a range of a remote object in order. The source only serves requests of one size at
multiples of it, so the first chunk is cut at its front and the last one at its end. -/
namespace Courier

/-- The chunks that cover a range: which one comes next, and how the outer ones are cut. -/
structure Parts where
  /-- Offset of the next chunk. -/
  offset : Nat
  /-- Bytes dropped from the front of the first chunk. -/
  firstCut : Nat
  /-- Bytes kept of the last chunk. -/
  lastCut : Nat
  count : Nat
  /-- Number of the next chunk, from one on. -/
  current : Nat
  deriving DecidableEq, Repr

namespace Parts

/-- The chunks of one size that cover the bytes from `start` to `stop`, both included. -/
def cover (start stop size : Nat) : Parts :=
  let offset := start - start % size
  { offset
    firstCut := start - offset
    lastCut := stop % size + 1
    count := (stop - offset + size) / size
    current := 1 }

def pending? (parts : Parts) : Option Nat :=
  if parts.current ≤ parts.count then some parts.offset else none

/-- What belongs to the range of a chunk of the next part. -/
def trim (parts : Parts) (chunk : Bytes) : Bytes :=
  if parts.count = 1 then
    let stop := min parts.lastCut chunk.size
    chunk.extract (min parts.firstCut stop) stop
  else if parts.current = 1 then chunk.extract (min parts.firstCut chunk.size) chunk.size
  else if parts.current = parts.count then chunk.extract 0 (min parts.lastCut chunk.size)
  else chunk

def advance (parts : Parts) (size : Nat) : Parts :=
  { parts with current := parts.current + 1, offset := parts.offset + size }

/-- Trims a chunk and goes on to the next part; an empty chunk is no part. -/
def take (parts : Parts) (chunk : Bytes) (size : Nat) : Bytes × Parts :=
  if chunk.size = 0 then (chunk, parts) else (parts.trim chunk, parts.advance size)

end Parts

def chunkSize : Nat := 1024 * 1024

structure Reader where
  location : String
  start : Nat
  stop : Nat
  /-- Bytes that the caller expects. -/
  length : Nat
  chunkSize : Nat
  parts : Parts
  buffer : Bytes
  /-- Bytes of the buffer that have been read. -/
  cursor : Nat
  bytesRead : Nat
  /-- When progress is reported, and of which task. -/
  progress : Option (Throttle × Summary)
  policy : RetryPolicy

namespace Reader

/-- A reader of the bytes from `start` to `stop`, both included, in chunks of a size. -/
def range (location : String) (start stop length size : Nat) : Reader where
  location
  start
  stop
  length
  chunkSize := max size 1
  parts := .cover start stop (max size 1)
  buffer := ByteArray.empty
  cursor := 0
  bytesRead := 0
  progress := none
  policy := .none

def whole (file : RemoteFile) (size : Nat) : Reader :=
  range file.location 0 (file.size - 1) file.size size

def withProgress (r : Reader) (interval : Nat) (summary : Summary) : Reader :=
  { r with progress := some (.new interval r.length, summary) }

def withPolicy (r : Reader) (policy : RetryPolicy) : Reader :=
  { r with policy }

/-- The next chunk, trimmed; empty when none is left or the source has none. -/
def fetchNext (r : Reader) : Job (Except TransferError Bytes × Reader) :=
  match r.parts.pending? with
  | none => return (.ok ByteArray.empty, r)
  | some offset => do
    match ← fetchWithRetry r.policy (Job.request (.fetchChunk r.location offset r.chunkSize)) with
    | .error e => return (.error e, r)
    | .ok chunk =>
      let (part, parts) := r.parts.take chunk r.chunkSize
      return (.ok part, { r with parts })

/-- Goes back to the start of the range. -/
def restart (r : Reader) : Reader :=
  { r with parts := .cover r.start r.stop r.chunkSize }

/-- Fetches the first part of the range into the used-up buffer. -/
def refillAnew (r : Reader) : Job (Except TransferError Unit × Reader) := do
  match ← r.restart.fetchNext with
  | (.error e, r) => return (.error e, r)
  | (.ok part, r) =>
    let r := { r with buffer := part }
    if part.size ≠ 0 then return (.ok (), { r with cursor := 0 })
    else return (.error (.shortRead r.length r.bytesRead), r)

/-- Fetches into the used-up buffer. Where nothing comes the range is begun anew, once. -/
def refill (r : Reader) : Job (Except TransferError Unit × Reader) := do
  match ← r.fetchNext with
  | (.error e, r) => return (.error e, r)
  | (.ok part, r) =>
    if part.size ≠ 0 then return (.ok (), { r with buffer := part, cursor := 0 })
    else ({ r with buffer := part }).refillAnew

/-- Bytes that the next read takes from the buffer, given the room for them. -/
def portion (r : Reader) (room : Nat) : Nat :=
  let n := min (min (r.buffer.size - r.cursor) room) (r.length - r.bytesRead)
  match r.progress with
  | none => n
  | some (throttle, _) =>
    let next := throttle.untilNext r.bytesRead
    if next > 0 then min n next else n

def report (r : Reader) : Job Reader :=
  match r.progress with
  | none => return r
  | some (throttle, summary) => do
    let (due, throttle) := throttle.observe r.bytesRead
    if due then Job.request (.progress summary r.bytesRead r.length)
    return { r with progress := some (throttle, summary) }

def consume (r : Reader) (room : Nat) : Job (Except TransferError Bytes × Reader) := do
  let n := r.portion room
  let out := r.buffer.extract r.cursor (r.cursor + n)
  let r ← ({ r with cursor := r.cursor + n, bytesRead := r.bytesRead + n }).report
  return (.ok out, r)

/-- Reads up to `room` bytes; none at the end of the range. -/
def read (r : Reader) (room : Nat) : Job (Except TransferError Bytes × Reader) := do
  if r.bytesRead ≥ r.length ∨ room = 0 then return (.ok ByteArray.empty, r)
  if r.cursor < r.buffer.size then r.consume room
  else
    match ← r.refill with
    | (.error e, r) => return (.error e, r)
    | (.ok (), r) => r.consume room

/-- A place that bytes are written to, in order. -/
structure Sink (σ : Type) where
  write : σ → Bytes → Job (Except OsError Unit × σ)
  flush : σ → Job (Except OsError Unit × σ)

def copyRoom : Nat := 64 * 1024

/-- Reads and writes until the range ends; `reads` bounds how often. -/
def copyLoop {σ : Type} (sink : Sink σ) (r : Reader) (s : σ) (written : Nat) : (reads : Nat) →
    Job (Except TransferError Nat × Reader × σ)
  | 0 => return (.ok written, r, s)
  | reads + 1 => do
    match ← r.read copyRoom with
    | (.error e, r) => return (.error e, r, s)
    | (.ok bytes, r) =>
      if bytes.size = 0 then
        match ← sink.flush s with
        | (.error e, s) => return (.error (.call (.os e)), r, s)
        | (.ok (), s) => return (.ok written, r, s)
      else
        match ← sink.write s bytes with
        | (.error e, s) => return (.error (.call (.os e)), r, s)
        | (.ok (), s) => copyLoop sink r s (written + bytes.size) reads

/-- Copies what is left of the range; gives the number of bytes written. -/
def copyTo {σ : Type} (sink : Sink σ) (r : Reader) (s : σ) :
    Job (Except TransferError Nat × Reader × σ) :=
  copyLoop sink r s 0 (r.length - r.bytesRead + 1)

end Reader

end Courier
