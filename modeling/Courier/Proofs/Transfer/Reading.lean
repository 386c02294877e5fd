import Courier.Proofs.Retry.Attempts
import Courier.Proofs.Transfer.Place

/-! Reads of a range of an object. A read gives out the bytes that come next, or it fails in a fetch, or
there is nothing of the range to be had. -/
namespace Courier.Reader

open Parts (ending)

/-- Whether an answer agrees with what the object at a location is: a fetched chunk of it is what the
object has there. -/
def Serves (location : String) (object : Bytes) : Exchange → Prop
  | ⟨.fetchChunk place offset limit, some (.ok bytes)⟩ =>
    place = location → bytes = object.extract offset (offset + limit)
  | _ => True

/-- The error that comes of an exchange where it is a failed fetch or tells of a cancellation. -/
def fault? : Exchange → Option TransferError
  | ⟨.canceled, true⟩ => some .canceled
  | ⟨.fetchChunk .., none⟩ => some .canceled
  | ⟨.fetchChunk .., some (.error cause)⟩ => some (fetchFailure cause)
  | _ => none

variable {object : Bytes} {r r' : Reader} {t : List Exchange} {taken rounds : Nat}

theorem exists_fault {location : String} {offset limit : Nat} {e : TransferError}
    (failed : FetchFailed (Job.request (.fetchChunk location offset limit)) t e) :
    ∃ x ∈ t, fault? x = some e := by
  simp only [FetchFailed, Job.request, Job.trace_ask, Job.trace_done] at failed
  rcases failed with ⟨front, _, cause, rfl, ⟨reply, _, rfl, rfl, rfl⟩, rfl⟩ | ⟨rfl, told | told⟩
  · exact ⟨_, List.mem_append_right front (List.mem_cons_self ..), rfl⟩
  · exact ⟨_, told, rfl⟩
  · obtain ⟨front, _, rfl, reply, _, rfl, rfl, rfl⟩ := told
    exact ⟨_, List.mem_append_right front (List.mem_cons_self ..), rfl⟩

/-- The next part is the next stretch of the object, or the fetch of it failed. -/
theorem fetchNext_trace {result : Except TransferError Bytes} (aligned : Aligned r taken)
    (run : r.fetchNext.Trace t (result, r')) (serves : ∀ x ∈ t, Serves r.location object x) :
    (∃ part, ∃ taken' ≤ (Parts.cover r.start r.stop r.chunkSize).count,
      (result, r') = (.ok part, { r with parts := .after r.start r.stop r.chunkSize taken' }) ∧
      part = object.extract (r.reach object taken) (r.reach object taken') ∧
      (part.size = 0 → ending object r.stop ≤ r.reach object taken)) ∨
    ∃ e, (result, r') = (.error e, r) ∧ ∃ x ∈ t, fault? x = some e := by
  obtain ⟨positive, ordered, within, parts⟩ := aligned
  unfold fetchNext at run
  rw [parts, Parts.pending?_after] at run
  by_cases more : taken < (Parts.cover r.start r.stop r.chunkSize).count
  · simp only [if_pos more, Job.bind_eq, Job.trace_bind] at run
    obtain ⟨outcome, t₁, t₂, rfl, fetched, rest⟩ := run
    rcases fetchWithRetry_trace fetched with ⟨chunk, front, last, rfl, rfl, made⟩ | ⟨e, rfl, failed⟩
    · simp only [Job.request, Job.trace_ask, Job.trace_done] at made
      obtain ⟨reply, _, rfl, rfl, rfl⟩ := made
      have hc : Serves r.location object ⟨_, _⟩ := serves _
        (List.mem_append_left t₂ (List.mem_append_right front (List.mem_cons_self ..)))
      obtain ⟨taken', hw, part, hp, hsize, htake⟩ := Parts.take_after object positive ordered more
      rw [← hc rfl] at htake
      simp only [htake, Job.pure_eq, Job.trace_done] at rest
      exact Or.inl ⟨part, taken', hw, rest.2, hp, hsize⟩
    · simp only [Job.pure_eq, Job.trace_done] at rest
      obtain ⟨rfl, hr⟩ := rest
      rw [List.append_nil]
      exact Or.inr ⟨e, hr, exists_fault failed⟩
  · have ht : taken = (Parts.cover r.start r.stop r.chunkSize).count := by omega
    simp only [if_neg more, Job.pure_eq, Job.trace_done] at run
    refine Or.inl ⟨_, taken, within, ?_, (ByteArray.extract_same ..).symm, fun _ => ?_⟩
    · rw [run.2, ← parts]
    · rw [reach, ht, Parts.reach_count object positive ordered]
      exact Nat.le_max_right ..

/-- What filling the used-up buffer comes to: bytes of the range, the failure of a fetch, or a short
read where the object has none of the range. -/
structure Refilled (object : Bytes) (r r' : Reader) (t : List Exchange)
    (result : Except TransferError Unit) : Prop where
  tracks : Tracks object r'
  continues : Continues r r'
  bytesRead : r'.bytesRead = r.bytesRead
  progress : r'.progress = r.progress
  outcome : result = .ok () ∧ 0 < r'.left ∨ ∃ e, result = .error e ∧
    ((∃ x ∈ t, fault? x = some e) ∨ r.available object = 0 ∧ e = .shortRead r.length r.bytesRead)

theorem refilled_of_part {taken' : Nat} {part : Bytes} (aligned : Aligned r taken)
    (within : taken' ≤ (Parts.cover r.start r.stop r.chunkSize).count)
    (hp : part = object.extract (r.reach object taken) (r.reach object taken')) (filled : part.size ≠ 0)
    (counted : r.bytesRead = rounds * r.available object + (r.reach object taken - r.start)) :
    Refilled object r { r with
      parts := .after r.start r.stop r.chunkSize taken', buffer := part, cursor := 0 } t (.ok ()) := by
  have aligned' : Aligned { r with
      parts := .after r.start r.stop r.chunkSize taken', buffer := part, cursor := 0 } taken' :=
    ⟨aligned.positive, aligned.ordered, within, rfl⟩
  obtain ⟨place, unread⟩ := aligned'.at_of_part rfl hp filled counted
  exact ⟨⟨taken', rounds, place⟩, ⟨rfl, rfl, rfl, rfl, rfl⟩, rfl, rfl, Or.inl ⟨rfl, unread⟩⟩

theorem Refilled.of_restart {result : Except TransferError Unit}
    (h : Refilled object r.restart r' t result) : Refilled object r r' t result :=
  ⟨h.tracks, ⟨h.continues.location, h.continues.start, h.continues.stop, h.continues.length,
    h.continues.chunkSize⟩, h.bytesRead, h.progress, h.outcome⟩

/-- The range is begun anew with nothing in the buffer. -/
theorem refillAnew_trace {result : Except TransferError Unit} (aligned : Aligned r taken)
    (used : r.buffer.size = 0) (counted : r.bytesRead = rounds * r.available object)
    (run : r.refillAnew.Trace t (result, r')) (serves : ∀ x ∈ t, Serves r.location object x) :
    Refilled object r r' t result := by
  have counted₀ : r.bytesRead = rounds * r.available object + (r.reach object 0 - r.start) := by
    rw [counted, reach_zero, Nat.sub_self, Nat.add_zero]
  simp only [refillAnew, Job.bind_eq, Job.trace_bind] at run
  obtain ⟨⟨next, r₁⟩, t₁, t₂, rfl, fetched, rest⟩ := run
  rcases fetchNext_trace aligned.restart fetched fun x hx => serves x (List.mem_append_left t₂ hx) with
    ⟨part, taken, within, hr, hp, hsize⟩ | ⟨e, hr, x, hx, fault⟩
  · obtain ⟨rfl, rfl⟩ := Prod.mk.inj hr
    by_cases blank : part.size = 0
    · simp only [if_neg (not_not_intro blank), Job.pure_eq, Job.trace_done, Prod.mk.injEq] at rest
      obtain ⟨rfl, rfl, rfl⟩ := rest
      -- The first part of all is empty only where the object has none of the range.
      have nothing : r.available object = 0 := by
        have : ending object r.stop ≤ r.reach object 0 := hsize blank
        rw [reach_zero] at this
        exact Nat.sub_eq_zero_of_le this
      have here : r.reach object taken - r.start = 0 := by
        have := r.reach_le object taken
        unfold available at nothing
        omega
      have aligned' : Aligned { r with
          parts := .after r.start r.stop r.chunkSize taken, buffer := part } taken :=
        ⟨aligned.positive, aligned.ordered, within, rfl⟩
      refine ⟨⟨taken, rounds, aligned'.at_of_used ?_ ?_⟩, ⟨rfl, rfl, rfl, rfl, rfl⟩, rfl, rfl,
        Or.inr ⟨_, rfl, Or.inr ⟨nothing, rfl⟩⟩⟩
      · show part.size - r.cursor = 0
        omega
      · show r.bytesRead = rounds * r.available object + (r.reach object taken - r.start)
        rw [counted, here, Nat.add_zero]
    · simp only [if_pos blank, Job.pure_eq, Job.trace_done, Prod.mk.injEq] at rest
      obtain ⟨rfl, rfl, rfl⟩ := rest
      exact (refilled_of_part aligned.restart within hp blank counted₀).of_restart
  · obtain ⟨rfl, rfl⟩ := Prod.mk.inj hr
    simp only [Job.pure_eq, Job.trace_done, Prod.mk.injEq] at rest
    obtain ⟨rfl, rfl, rfl⟩ := rest
    have unread : r.left = 0 := by rw [left, used, Nat.zero_sub]
    exact ⟨⟨0, rounds, aligned.restart.at_of_used unread counted₀⟩, ⟨rfl, rfl, rfl, rfl, rfl⟩, rfl, rfl,
      Or.inr ⟨e, rfl, Or.inl ⟨x, List.mem_append_left _ hx, fault⟩⟩⟩

theorem refill_trace {result : Except TransferError Unit} (place : At object r taken rounds)
    (used : r.left = 0) (run : r.refill.Trace t (result, r'))
    (serves : ∀ x ∈ t, Serves r.location object x) : Refilled object r r' t result := by
  have counted := place.counted
  rw [used, Nat.add_zero] at counted
  simp only [refill, Job.bind_eq, Job.trace_bind] at run
  obtain ⟨⟨next, r₁⟩, t₁, t₂, rfl, fetched, rest⟩ := run
  have serves₁ := fun x hx => serves x (List.mem_append_left t₂ hx)
  have serves₂ := fun x hx => serves x (List.mem_append_right t₁ hx)
  rcases fetchNext_trace place.toAligned fetched serves₁ with
    ⟨part, taken', within, hr, hp, hsize⟩ | ⟨e, hr, x, hx, fault⟩
  · obtain ⟨rfl, rfl⟩ := Prod.mk.inj hr
    by_cases blank : part.size = 0
    · simp only [if_neg (not_not_intro blank)] at rest
      have ended : r.reach object taken = max r.start (ending object r.stop) :=
        Nat.le_antisymm (r.reach_le object taken)
          (Nat.max_le.mpr ⟨r.start_le_reach object taken, hsize blank⟩)
      have again : r.bytesRead = (rounds + 1) * r.available object := by
        rw [counted, ended, Nat.succ_mul, available]
        omega
      have aligned' : Aligned { r with
          parts := .after r.start r.stop r.chunkSize taken', buffer := part } taken' :=
        ⟨place.positive, place.ordered, within, rfl⟩
      have h := refillAnew_trace aligned' blank again rest serves₂
      refine ⟨h.tracks, ⟨h.continues.location, h.continues.start, h.continues.stop, h.continues.length,
        h.continues.chunkSize⟩, h.bytesRead, h.progress, h.outcome.imp_right ?_⟩
      rintro ⟨e, rfl, ⟨x, hx, fault⟩ | short⟩
      · exact ⟨e, rfl, Or.inl ⟨x, List.mem_append_right t₁ hx, fault⟩⟩
      · exact ⟨e, rfl, Or.inr short⟩
    · simp only [if_pos blank, Job.pure_eq, Job.trace_done, Prod.mk.injEq] at rest
      obtain ⟨rfl, rfl, rfl⟩ := rest
      exact refilled_of_part place.toAligned within hp blank counted
  · obtain ⟨rfl, rfl⟩ := Prod.mk.inj hr
    simp only [Job.pure_eq, Job.trace_done, Prod.mk.injEq] at rest
    obtain ⟨rfl, rfl, rfl⟩ := rest
    exact ⟨⟨taken, rounds, place⟩, ⟨rfl, rfl, rfl, rfl, rfl⟩, rfl, rfl,
      Or.inr ⟨e, rfl, Or.inl ⟨x, List.mem_append_left _ hx, fault⟩⟩⟩

theorem portion_le (r : Reader) (room : Nat) :
    r.portion room ≤ r.left ∧ r.portion room ≤ room ∧ r.portion room ≤ r.length - r.bytesRead := by
  unfold portion left
  cases r.progress with
  | none => dsimp only; omega
  | some p => dsimp only; split <;> omega

theorem portion_pos {room : Nat} (unread : 0 < r.left) (roomy : 0 < room)
    (more : r.bytesRead < r.length) : 0 < r.portion room := by
  unfold left at unread
  unfold portion
  cases r.progress with
  | none => dsimp only; omega
  | some p => dsimp only; split <;> omega

theorem report_trace (run : r.report.Trace t r') : ∃ progress, r' = { r with progress } := by
  unfold report at run
  cases hp : r.progress with
  | none =>
    simp only [hp, Job.pure_eq, Job.trace_done] at run
    exact ⟨r.progress, run.2⟩
  | some p =>
    simp only [hp] at run
    split at run
    · simp only [Job.bind_eq, Job.request, Job.ask_bind, Job.done_bind, Job.trace_ask, Job.pure_eq,
        Job.trace_done] at run
      obtain ⟨_, _, -, -, rfl⟩ := run
      exact ⟨_, rfl⟩
    · simp only [Job.pure_eq, Job.trace_done] at run
      exact ⟨_, run.2⟩

/-- A read that gives out the next bytes, at least one where more are expected. -/
structure Gives (object : Bytes) (r r' : Reader) (room : Nat) (out : Bytes) : Prop where
  tracks : Tracks object r'
  continues : Continues r r'
  bytesRead : r'.bytesRead = r.bytesRead + out.size
  bytes : out.data.toList = r.stretch object r.bytesRead out.size
  le : out.size ≤ r.length - r.bytesRead
  pos : 0 < room → r.bytesRead < r.length → 0 < out.size ∧ 0 < r.available object

/-- A read that fails in a fetch, or since the object has none of the range. -/
structure Fails (object : Bytes) (r r' : Reader) (t : List Exchange) (e : TransferError) : Prop where
  tracks : Tracks object r'
  continues : Continues r r'
  bytesRead : r'.bytesRead = r.bytesRead
  more : r.bytesRead < r.length
  cause : (∃ x ∈ t, fault? x = some e) ∨
    r.available object = 0 ∧ e = .shortRead r.length r.bytesRead

theorem consume_trace {room : Nat} {result : Except TransferError Bytes}
    (place : At object r taken rounds) (unread : 0 < r.left)
    (run : (r.consume room).Trace t (result, r')) :
    ∃ out, result = .ok out ∧ Gives object r r' room out := by
  obtain ⟨hn, -, hlength⟩ := portion_le r room
  have hout := place.toList_extract hn
  have hsize : (r.buffer.extract r.cursor (r.cursor + r.portion room)).size = r.portion room := by
    rw [← ByteArray.size_data, ← Array.length_toList, hout, length_stretch]
  simp only [consume, Job.bind_eq, Job.trace_bind, Job.pure_eq, Job.trace_done, Prod.mk.injEq] at run
  obtain ⟨r₁, t₁, _, rfl, reported, rfl, rfl, rfl⟩ := run
  obtain ⟨progress, rfl⟩ := report_trace reported
  refine ⟨_, rfl, ⟨taken, rounds, place.advance hn progress⟩, ⟨rfl, rfl, rfl, rfl, rfl⟩, ?_, ?_, ?_,
    fun roomy more => ⟨?_, place.available_pos unread⟩⟩
  · rw [hsize]
  · rw [hsize]
    exact hout
  · rw [hsize]
    exact hlength
  · rw [hsize]
    exact portion_pos unread roomy more

theorem read_trace {room : Nat} {result : Except TransferError Bytes} (tracks : Tracks object r)
    (run : (r.read room).Trace t (result, r')) (serves : ∀ x ∈ t, Serves r.location object x) :
    (∃ out, result = .ok out ∧ Gives object r r' room out) ∨
      ∃ e, result = .error e ∧ Fails object r r' t e := by
  obtain ⟨taken, rounds, place⟩ := tracks
  unfold read at run
  by_cases done : r.bytesRead ≥ r.length ∨ room = 0
  · simp only [if_pos done, Job.pure_eq, Job.trace_done, Prod.mk.injEq] at run
    obtain ⟨-, rfl, rfl⟩ := run
    exact Or.inl ⟨_, rfl, ⟨taken, rounds, place⟩, ⟨rfl, rfl, rfl, rfl, rfl⟩, rfl, rfl, Nat.zero_le _,
      fun _ _ => by omega⟩
  · rw [if_neg done] at run
    rw [not_or] at done
    by_cases unread : r.cursor < r.buffer.size
    · rw [if_pos unread] at run
      exact Or.inl (consume_trace place (Nat.sub_pos_of_lt unread) run)
    · simp only [if_neg unread, Job.bind_eq, Job.trace_bind] at run
      obtain ⟨⟨filled, r₁⟩, t₁, t₂, rfl, refilled, rest⟩ := run
      have h := refill_trace place (Nat.sub_eq_zero_of_le (Nat.le_of_not_lt unread)) refilled
        fun x hx => serves x (List.mem_append_left t₂ hx)
      rcases h.outcome with ⟨rfl, unread⟩ | ⟨e, rfl, cause⟩
      · obtain ⟨taken₁, rounds₁, place₁⟩ := h.tracks
        obtain ⟨out, rfl, gives⟩ := consume_trace place₁ unread rest
        refine Or.inl ⟨out, rfl, gives.tracks, h.continues.trans gives.continues, ?_, ?_, ?_, ?_⟩
        · rw [gives.bytesRead, h.bytesRead]
        · rw [gives.bytes, h.bytesRead, h.continues.stretch]
        · rw [← h.bytesRead, ← h.continues.length]
          exact gives.le
        · rw [← h.bytesRead, ← h.continues.length, ← h.continues.available]
          exact gives.pos
      · simp only [Job.pure_eq, Job.trace_done, Prod.mk.injEq] at rest
        obtain ⟨rfl, rfl, rfl⟩ := rest
        rw [List.append_nil]
        exact Or.inr ⟨e, rfl, h.tracks, h.continues, h.bytesRead, Nat.lt_of_not_le done.1, cause⟩

section Asks

variable {P : Request → Prop} (look : P .canceled)
  (fetch : ∀ location offset limit, P (.fetchChunk location offset limit))
  (tell : ∀ summary read total, P (.progress summary read total))
include look fetch

theorem fetchNext_asks (r : Reader) : r.fetchNext.Asks P := by
  unfold fetchNext
  split
  · exact Job.asks_done ..
  · have asks : ∀ offset, (Job.request (.fetchChunk r.location offset r.chunkSize)).Asks P :=
      fun offset => ⟨fetch .., fun _ => Job.asks_done ..⟩
    refine (fetchWithRetry_asks r.policy look (asks _)).bind ?_
    rintro (e | chunk) <;> exact Job.asks_done ..

theorem refillAnew_asks (r : Reader) : r.refillAnew.Asks P := by
  refine (fetchNext_asks look fetch _).bind ?_
  rintro ⟨e | part, r⟩
  · exact Job.asks_done ..
  · dsimp only
    split <;> exact Job.asks_done ..

theorem refill_asks (r : Reader) : r.refill.Asks P := by
  refine (fetchNext_asks look fetch r).bind ?_
  rintro ⟨e | part, r⟩
  · exact Job.asks_done ..
  · dsimp only
    split
    · exact Job.asks_done ..
    · exact refillAnew_asks look fetch _

include tell

theorem read_asks (r : Reader) (room : Nat) : (r.read room).Asks P := by
  have consume_asks (r : Reader) : (r.consume room).Asks P := by
    refine Job.Asks.bind ?_ fun _ => Job.asks_done ..
    unfold report
    split
    · exact Job.asks_done ..
    · dsimp only
      split
      · exact ⟨tell .., fun _ => Job.asks_done ..⟩
      · exact Job.asks_done ..
  unfold read
  split
  · exact Job.asks_done ..
  · split
    · exact consume_asks r
    · refine (refill_asks look fetch r).bind ?_
      rintro ⟨e | _, r⟩
      · exact Job.asks_done ..
      · exact consume_asks r

end Asks

end Courier.Reader
