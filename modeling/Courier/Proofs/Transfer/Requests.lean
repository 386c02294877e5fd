import Courier.Proofs.Transfer.Completion
import Courier.Proofs.Transfer.Fetching
import Courier.Proofs.Transfer.Width

/-! The chunks that a reader asks for. While its task is not canceled it asks for those that its range
needs, one after another from the first one on, and for one of them again only when its fetch failed. -/
namespace Courier.Reader

variable {object : Bytes} {k : Nat} {t t₁ t₂ : List Exchange}

/-- A reader that has fetched the chunks before one: what it has given out and what its buffer holds end
where these chunks do, or the range. -/
structure Ahead (r : Reader) (next : Nat) : Prop where
  positive : 0 < r.chunkSize
  ordered : r.start ≤ r.stop
  begun : r.start / r.chunkSize ≤ next
  parts : r.parts = .after r.start r.stop r.chunkSize (next - r.start / r.chunkSize)
  counted : r.start + r.bytesRead + r.left = max r.start (min (r.stop + 1) (next * r.chunkSize))

section Ahead

variable {r r' : Reader} {next room : Nat}

theorem Ahead.offset (ahead : r.Ahead next) :
    r.start - r.start % r.chunkSize + (next - r.start / r.chunkSize) * r.chunkSize =
      next * r.chunkSize := by
  have base : r.start - r.start % r.chunkSize = r.start / r.chunkSize * r.chunkSize := by
    have := Nat.div_add_mod' r.start r.chunkSize
    omega
  rw [base, ← Nat.add_mul, Nat.add_sub_cancel' ahead.begun]

/-- A chunk that begins in the range is one of its parts. -/
theorem Ahead.more (ahead : r.Ahead next) (within : next * r.chunkSize ≤ r.stop) :
    next - r.start / r.chunkSize < (Parts.cover r.start r.stop r.chunkSize).count := by
  obtain ⟨full, count, last, -, short⟩ := Parts.count_cover ahead.positive ahead.ordered
  have offset := ahead.offset
  rw [count]
  refine Nat.lt_of_not_le fun many => ?_
  have := Nat.mul_le_mul_right r.chunkSize many
  rw [Nat.succ_mul] at this
  omega

/-- The next chunk is fetched, and its bytes of the range are kept, or all attempts to fetch it fail. -/
theorem fetchNext_fetching {result : Except TransferError Bytes} (ahead : r.Ahead next)
    (within : next * r.chunkSize ≤ r.stop) (whole : r.stop < object.size)
    (run : r.fetchNext.Trace t (result, r')) (answers : ∀ x ∈ t, Answers r.location object x) :
    (∃ part, result = .ok part ∧ part.size =
        min (r.stop + 1) (next * r.chunkSize + r.chunkSize) - max r.start (next * r.chunkSize) ∧
      r' = { r with parts := .after r.start r.stop r.chunkSize (next + 1 - r.start / r.chunkSize) } ∧
      Fetching r.location r.chunkSize r.stop next t (next + 1)) ∨
    (∃ e, result = .error e) ∧ r' = r ∧ Fetching r.location r.chunkSize r.stop next t next ∧
      AllFail r.policy.attempts t := by
  have more := ahead.more within
  unfold fetchNext at run
  rw [ahead.parts, Parts.pending?_after, if_pos more, ahead.offset] at run
  simp only [Job.bind_eq, Job.trace_bind] at run
  obtain ⟨outcome, t₁, t₂, rfl, requested, rest⟩ := run
  obtain ⟨answers, -⟩ := List.forall_mem_append.mp answers
  rcases requestChunk_fetching within requested answers with ⟨rfl, fetching⟩ | ⟨⟨e, rfl⟩, fetching, bad⟩
  · simp only [Job.pure_eq, Job.trace_done, Prod.mk.injEq] at rest
    obtain ⟨rfl, rfl, rfl⟩ := rest
    have filled : (object.extract (next * r.chunkSize) (next * r.chunkSize + r.chunkSize)).size ≠ 0 := by
      have := ahead.positive
      rw [ByteArray.size_extract]
      omega
    have later : next + 1 - r.start / r.chunkSize = next - r.start / r.chunkSize + 1 :=
      Nat.succ_sub ahead.begun
    rw [List.append_nil, Parts.take, if_neg filled,
      Parts.trim_after ahead.positive ahead.ordered more ahead.offset.symm]
    refine Or.inl ⟨_, rfl, ?_, ?_, fetching⟩
    · rw [ByteArray.size_extract]
      omega
    · simp only [Parts.advance, Parts.after, later, Nat.succ_mul, Nat.add_assoc]
  · simp only [Job.pure_eq, Job.trace_done, Prod.mk.injEq] at rest
    obtain ⟨rfl, rfl, rfl⟩ := rest
    rw [List.append_nil]
    exact Or.inr ⟨⟨e, rfl⟩, rfl, fetching, bad⟩

theorem refill_fetching {result : Except TransferError Unit} (ahead : r.Ahead next) (used : r.left = 0)
    (more : r.start + r.bytesRead ≤ r.stop) (whole : r.stop < object.size)
    (run : r.refill.Trace t (result, r')) (answers : ∀ x ∈ t, Answers r.location object x) :
    (result = .ok () ∧ (∃ parts buffer, r' = { r with parts, buffer, cursor := 0 }) ∧
      r'.Ahead (next + 1) ∧ 0 < r'.left ∧ next * r.chunkSize ≤ r.start + r.bytesRead ∧
      Fetching r.location r.chunkSize r.stop next t (next + 1)) ∨
    (∃ e, result = .error e) ∧ r' = r ∧ Fetching r.location r.chunkSize r.stop next t next ∧
      AllFail r.policy.attempts t := by
  have counted := ahead.counted
  have positive := ahead.positive
  have within : next * r.chunkSize ≤ r.stop := by omega
  have place : r.start + r.bytesRead = max r.start (next * r.chunkSize) := by omega
  simp only [refill, Job.bind_eq, Job.trace_bind] at run
  obtain ⟨⟨outcome, r₁⟩, t₁, t₂, rfl, fetched, rest⟩ := run
  obtain ⟨answers, -⟩ := List.forall_mem_append.mp answers
  rcases fetchNext_fetching ahead within whole fetched answers with
    ⟨part, rfl, size, rfl, fetching⟩ | ⟨⟨e, rfl⟩, rfl, fetching, bad⟩
  · have first : r.start < r.start / r.chunkSize * r.chunkSize + r.chunkSize := by
      rw [← Nat.succ_mul]
      exact Nat.lt_mul_of_div_lt (Nat.lt_succ_self _) positive
    have after : r.start < next * r.chunkSize + r.chunkSize := by
      have := Nat.mul_le_mul_right r.chunkSize ahead.begun
      omega
    have filled : part.size ≠ 0 := by omega
    simp only [if_pos filled, Job.pure_eq, Job.trace_done, Prod.mk.injEq] at rest
    obtain ⟨rfl, rfl, rfl⟩ := rest
    rw [List.append_nil]
    refine Or.inl ⟨rfl, ⟨_, _, rfl⟩, ⟨positive, ahead.ordered, Nat.le_succ_of_le ahead.begun, rfl, ?_⟩,
      Nat.pos_of_ne_zero filled, by omega, fetching⟩
    show r.start + r.bytesRead + part.size = max r.start (min (r.stop + 1) ((next + 1) * r.chunkSize))
    rw [Nat.succ_mul]
    omega
  · simp only [Job.pure_eq, Job.trace_done, Prod.mk.injEq] at rest
    obtain ⟨rfl, rfl, rfl⟩ := rest
    rw [List.append_nil]
    exact Or.inr ⟨⟨e, rfl⟩, rfl, fetching, bad⟩

/-- The chunk after those of which bytes have been read. -/
def nextChunk (start size read : Nat) : Nat :=
  if read = 0 then start / size else (start + read - 1) / size + 1

theorem nextChunk_of_read {start size read k : Nat} (some_read : 0 < read) (reached : k * size < start + read)
    (within : start + read ≤ (k + 1) * size) : nextChunk start size read = k + 1 := by
  have last : (start + read - 1) / size = k := Nat.div_eq_of_lt_le (by omega) (by omega)
  rw [nextChunk, if_neg (Nat.ne_of_gt some_read), last]

/-- A reader that has fetched the chunks of which bytes have been read and no others. -/
def Frugal (r : Reader) : Prop :=
  r.Ahead (nextChunk r.start r.chunkSize r.bytesRead)

/-- What is in the buffer is of the chunk that was read last. -/
theorem Frugal.reached (frugal : r.Frugal) (unread : 0 < r.left) :
    ∃ k, nextChunk r.start r.chunkSize r.bytesRead = k + 1 ∧ k * r.chunkSize ≤ r.start + r.bytesRead := by
  by_cases none_read : r.bytesRead = 0
  · -- No chunk has been fetched, so that nothing is in the buffer.
    have counted := frugal.counted
    rw [nextChunk, if_pos none_read] at counted
    have := Nat.div_mul_le_self r.start r.chunkSize
    omega
  · refine ⟨(r.start + r.bytesRead - 1) / r.chunkSize, if_neg none_read, ?_⟩
    have := Nat.div_mul_le_self (r.start + r.bytesRead - 1) r.chunkSize
    omega

theorem consume_frugal {result : Except TransferError Bytes} (ahead : r.Ahead (k + 1))
    (unread : 0 < r.left) (reached : k * r.chunkSize ≤ r.start + r.bytesRead) (roomy : 0 < room)
    (more : r.bytesRead < r.length) (run : (r.consume room).Trace t (result, r')) :
    (∃ out, result = .ok out) ∧ nextChunk r'.start r'.chunkSize r'.bytesRead = k + 1 ∧ r'.Frugal ∧
      ∀ x ∈ t, isFetch x = false := by
  have moving := portion_pos unread roomy more
  obtain ⟨fits, -, -⟩ := portion_le r room
  have counted := ahead.counted
  simp only [consume, Job.bind_eq, Job.trace_bind, Job.pure_eq, Job.trace_done, Prod.mk.injEq] at run
  obtain ⟨r₁, t₁, _, rfl, reported, rfl, rfl, rfl⟩ := run
  obtain ⟨⟨progress, rfl⟩, told⟩ := report_tells reported
  have next : nextChunk r.start r.chunkSize (r.bytesRead + r.portion room) = k + 1 :=
    nextChunk_of_read (by omega) (by omega) (by omega)
  refine ⟨⟨_, rfl⟩, next, ?_, fun x hx => ?_⟩
  · rw [Frugal]
    dsimp only
    rw [next]
    refine ⟨ahead.positive, ahead.ordered, ahead.begun, ahead.parts, ?_⟩
    rw [← counted]
    simp only [left] at *
    omega
  · rw [List.append_nil] at hx
    obtain ⟨summary, read, total, same⟩ := told x hx
    obtain ⟨q, reply⟩ := x
    obtain rfl : q = .progress summary read total := same
    rfl

end Ahead

/-- A way of a reader on which it fetches the chunks between where it was and where it is then. -/
structure Proceeds (r : Reader) (t : List Exchange) (r' : Reader) : Prop where
  continues : Continues r r'
  policy : r'.policy = r.policy
  frugal : r'.Frugal
  fetching : Fetching r.location r.chunkSize r.stop (nextChunk r.start r.chunkSize r.bytesRead) t
    (nextChunk r'.start r'.chunkSize r'.bytesRead)

section Proceeds

variable {r r₁ r' : Reader} {room : Nat} {rooms : List Nat}

theorem Frugal.stays (frugal : r.Frugal) : Proceeds r [] r :=
  ⟨⟨rfl, rfl, rfl, rfl, rfl⟩, rfl, frugal, .none _⟩

theorem Proceeds.trans (first : Proceeds r t₁ r₁) (second : Proceeds r₁ t₂ r') :
    Proceeds r (t₁ ++ t₂) r' := by
  have fetching := second.fetching
  rw [first.continues.location, first.continues.chunkSize, first.continues.stop] at fetching
  have before := first.fetching
  rw [first.continues.chunkSize] at before
  exact ⟨first.continues.trans second.continues, second.policy.trans first.policy, second.frugal,
    before.append fetching⟩

theorem Proceeds.before_others (proceeds : Proceeds r t₁ r') (others : ∀ x ∈ t₂, isFetch x = false) :
    Proceeds r (t₁ ++ t₂) r' :=
  ⟨proceeds.continues, proceeds.policy, proceeds.frugal, proceeds.fetching.append (.of_others others)⟩

theorem Proceeds.after_others (proceeds : Proceeds r t₂ r') (others : ∀ x ∈ t₁, isFetch x = false) :
    Proceeds r (t₁ ++ t₂) r' :=
  ⟨proceeds.continues, proceeds.policy, proceeds.frugal, (Fetching.of_others others).append proceeds.fetching⟩

/-- A reader that expects the bytes of its range, which an object has. -/
structure Fits (object : Bytes) (r : Reader) : Prop where
  length : r.length = r.stop - r.start + 1
  whole : r.stop < object.size

theorem Fits.of_continues (fits : Fits object r) (continues : Continues r r') : Fits object r' := by
  constructor
  · rw [continues.length, continues.stop, continues.start]
    exact fits.length
  · rw [continues.stop]
    exact fits.whole

/-- A read fetches the next chunk when its buffer is used up and more is expected, and at no other time. -/
theorem read_proceeds {result : Except TransferError Bytes} (frugal : r.Frugal) (fits : Fits object r)
    (run : (r.read room).Trace t (result, r')) (answers : ∀ x ∈ t, Answers r.location object x) :
    Proceeds r t r' ∧ ((∃ out, result = .ok out) ∨ AllFail r.policy.attempts t) := by
  have expects := fits.length
  have ordered := frugal.ordered
  have counted := frugal.counted
  have safe : Safe r room t result r' := read_safe (by omega) run
  have goesOn {next : Nat} (frugal : r'.Frugal) (last : nextChunk r'.start r'.chunkSize r'.bytesRead = next)
      (fetching : Fetching r.location r.chunkSize r.stop
        (nextChunk r.start r.chunkSize r.bytesRead) t next) : Proceeds r t r' :=
    ⟨safe.continues, safe.policy, frugal, last ▸ fetching⟩
  unfold read at run
  by_cases idle : r.bytesRead ≥ r.length ∨ room = 0
  · simp only [if_pos idle, Job.pure_eq, Job.trace_done, Prod.mk.injEq] at run
    obtain ⟨rfl, rfl, rfl⟩ := run
    exact ⟨frugal.stays, Or.inl ⟨_, rfl⟩⟩
  rw [if_neg idle] at run
  rw [not_or] at idle
  have more : r.bytesRead < r.length := Nat.lt_of_not_le idle.1
  have roomy : 0 < room := Nat.pos_of_ne_zero idle.2
  by_cases unread : r.cursor < r.buffer.size
  · -- The buffer still holds bytes of the chunk that was fetched last.
    rw [if_pos unread] at run
    have unread : 0 < r.left := Nat.sub_pos_of_lt unread
    obtain ⟨k, last, reached⟩ := frugal.reached unread
    have ahead : r.Ahead (k + 1) := last ▸ frugal
    obtain ⟨good, last', frugal', others⟩ := consume_frugal ahead unread reached roomy more run
    exact ⟨goesOn frugal' last' (last ▸ .of_others others), Or.inl good⟩
  · -- A byte of the next chunk is wanted.
    simp only [if_neg unread, Job.bind_eq, Job.trace_bind] at run
    obtain ⟨⟨filled, r₁⟩, t₁, t₂, rfl, refilled, rest⟩ := run
    obtain ⟨answers, -⟩ := List.forall_mem_append.mp answers
    have used : r.left = 0 := Nat.sub_eq_zero_of_le (Nat.le_of_not_lt unread)
    rcases refill_fetching frugal used (by omega) fits.whole refilled answers with
      ⟨rfl, ⟨parts, buffer, rfl⟩, ahead, unread, reached, fetching⟩ | ⟨⟨e, rfl⟩, rfl, fetching, bad⟩
    · obtain ⟨good, last', frugal', others⟩ := consume_frugal ahead unread reached roomy more rest
      exact ⟨goesOn frugal' last' (fetching.append (.of_others others)), Or.inl good⟩
    · simp only [Job.pure_eq, Job.trace_done, Prod.mk.injEq] at rest
      obtain ⟨rfl, rfl, rfl⟩ := rest
      rw [List.append_nil] at goesOn ⊢
      exact ⟨goesOn frugal rfl fetching, Or.inr bad⟩

theorem readEach_proceeds {results : List (Except TransferError Bytes)} (frugal : r.Frugal)
    (fits : Fits object r) (run : (readEach rooms r).Trace t (results, r'))
    (answers : ∀ x ∈ t, Answers r.location object x) :
    Proceeds r t r' ∧ (Absorbed r.policy.attempts t → ∀ x ∈ results, ∃ out, x = .ok out) := by
  -- Each read goes on from where the one before it has left the reader, also after a failure.
  induction rooms generalizing r t results with
  | nil =>
    simp only [readEach, Job.pure_eq, Job.trace_done, Prod.mk.injEq] at run
    obtain ⟨rfl, rfl, rfl⟩ := run
    exact ⟨frugal.stays, fun _ => List.forall_mem_nil _⟩
  | cons room rooms ih =>
    obtain ⟨result, later, r₁, t₁, t₂, rfl, rfl, first, others⟩ := readEach_cons run
    obtain ⟨answers₁, answers₂⟩ := List.forall_mem_append.mp answers
    obtain ⟨proceeds, outcome⟩ := read_proceeds frugal fits first answers₁
    rw [← proceeds.continues.location] at answers₂
    obtain ⟨rest, sound⟩ := ih proceeds.frugal (fits.of_continues proceeds.continues) others answers₂
    refine ⟨proceeds.trans rest, fun absorbed => ?_⟩
    obtain ⟨absorbed₁, absorbed₂⟩ := absorbed.append
    rw [← proceeds.policy] at absorbed₂
    exact List.forall_mem_cons.mpr
      ⟨outcome.resolve_right absorbed₁.not_allFail, sound absorbed₂⟩

theorem readEach_completes {results : List (Except TransferError Bytes)} (begun : r.bytesRead ≤ r.length)
    (run : (readEach rooms r).Trace t (results, r')) (sound : ∀ x ∈ results, ∃ out, x = .ok out) :
    r'.bytesRead = r.length ∨ r.bytesRead + rooms.countP (0 < ·) ≤ r'.bytesRead := by
  -- A read without room gives nothing, and one at the end leaves the reader there.
  induction rooms generalizing r t results with
  | nil =>
    simp only [readEach, Job.pure_eq, Job.trace_done, Prod.mk.injEq] at run
    obtain ⟨rfl, rfl, rfl⟩ := run
    exact Or.inr (Nat.le_refl _)
  | cons room rooms ih =>
    obtain ⟨result, later, r₁, t₁, t₂, rfl, rfl, first, others⟩ := readEach_cons run
    obtain ⟨⟨out, rfl⟩, sound₂⟩ := List.forall_mem_cons.mp sound
    have safe : Safe r room t₁ (.ok out) r₁ := read_safe begun first
    obtain ⟨-, read, within, moving⟩ := safe.gives out rfl
    have length := safe.continues.length
    obtain ⟨-, -, more, within'⟩ := readEach_safe (by omega) others
    have later := ih (by omega) others sound₂
    rw [List.countP_cons]
    split
    · next roomy =>
      have roomy : room ≠ 0 := Nat.ne_of_gt (of_decide_eq_true roomy)
      omega
    · omega

end Proceeds

/-- Whether nothing is fetched where bytes are written. -/
def Sink.FetchesNothing {σ : Type} (sink : Sink σ) : Prop :=
  (∀ s out t x, (sink.write s out).Trace t x → ∀ y ∈ t, isFetch y = false) ∧
    ∀ s t x, (sink.flush s).Trace t x → ∀ y ∈ t, isFetch y = false

theorem Copies.proceeds {σ : Type} {sink : Sink σ} {r r' : Reader} {s s' : σ} {reads : Nat}
    {blocks : List Bytes} {outcome : Except TransferError Unit}
    (copies : Copies sink r s reads blocks t outcome r' s') (quiet : sink.FetchesNothing)
    (frugal : r.Frugal) (fits : Fits object r) (answers : ∀ x ∈ t, Answers r.location object x) :
    Proceeds r t r' ∧ (Absorbed r.policy.attempts t →
      ∀ e, outcome = .error e → ∃ cause, e = .call (.os cause)) := by
  induction copies with
  | unread reading =>
    obtain ⟨proceeds, outcome⟩ := read_proceeds frugal fits reading answers
    refine ⟨proceeds, fun absorbed => ?_⟩
    exact absurd (outcome.resolve_right absorbed.not_allFail) nofun
  | flushed reading _ flushing =>
    obtain ⟨answers, -⟩ := List.forall_mem_append.mp answers
    obtain ⟨proceeds, -⟩ := read_proceeds frugal fits reading answers
    exact ⟨proceeds.before_others (quiet.2 _ _ _ flushing), nofun⟩
  | unflushed reading _ flushing =>
    obtain ⟨answers, -⟩ := List.forall_mem_append.mp answers
    obtain ⟨proceeds, -⟩ := read_proceeds frugal fits reading answers
    refine ⟨proceeds.before_others (quiet.2 _ _ _ flushing), fun _ e same => ?_⟩
    exact ⟨_, (Except.error.inj same).symm⟩
  | unwritten reading _ writing =>
    obtain ⟨answers, -⟩ := List.forall_mem_append.mp answers
    obtain ⟨proceeds, -⟩ := read_proceeds frugal fits reading answers
    refine ⟨proceeds.before_others (quiet.1 _ _ _ _ writing), fun _ e same => ?_⟩
    exact ⟨_, (Except.error.inj same).symm⟩
  | block reading _ writing _ ih =>
    obtain ⟨answers₁, answers₂⟩ := List.forall_mem_append.mp answers
    obtain ⟨-, answers₂⟩ := List.forall_mem_append.mp answers₂
    obtain ⟨proceeds, -⟩ := read_proceeds frugal fits reading answers₁
    rw [← proceeds.continues.location] at answers₂
    obtain ⟨rest, sound⟩ := ih proceeds.frugal (fits.of_continues proceeds.continues) answers₂
    refine ⟨proceeds.trans (rest.after_others (quiet.1 _ _ _ _ writing)), fun absorbed => ?_⟩
    have absorbed := absorbed.append.2.append.2
    rw [← proceeds.policy] at absorbed
    exact sound absorbed

section Range

variable {r r' : Reader}

/-- What is asked for by who has read a range: each of its chunks in order, once and once more for each
of its failures. -/
structure AsksAll (location : String) (start stop size : Nat) (t : List Exchange) : Prop where
  asked : Reader.asked t = inOrder location size (fun k => failuresAt (k * size) t) (start / size)
    (stop / size - start / size + 1)
  undisturbed : faults t = 0 → (Reader.asked t).length = stop / size - start / size + 1

theorem frugal_new {r : Reader} (positive : 0 < r.chunkSize) (ordered : r.start ≤ r.stop)
    (parts : r.parts = .cover r.start r.stop r.chunkSize) (buffer : r.buffer.size = 0)
    (bytesRead : r.bytesRead = 0) : r.Frugal := by
  have first : nextChunk r.start r.chunkSize r.bytesRead = r.start / r.chunkSize := if_pos bytesRead
  rw [Frugal, first]
  refine ⟨positive, ordered, Nat.le_refl _, ?_, ?_⟩
  · rw [Nat.sub_self, parts, Parts.cover_eq_after]
  · have := Nat.div_mul_le_self r.start r.chunkSize
    rw [bytesRead, left, buffer]
    omega

theorem Proceeds.asksAll (proceeds : Proceeds r t r') (positive : 0 < r.chunkSize)
    (ordered : r.start ≤ r.stop) (new : r.bytesRead = 0) (ended : r'.bytesRead = r.stop - r.start + 1) :
    AsksAll r.location r.start r.stop r.chunkSize t := by
  have fetching := proceeds.fetching
  have first : nextChunk r.start r.chunkSize r.bytesRead = r.start / r.chunkSize := if_pos new
  have last : nextChunk r'.start r'.chunkSize r'.bytesRead = r.stop / r.chunkSize + 1 := by
    have place : r.start + (r.stop - r.start + 1) - 1 = r.stop := by omega
    rw [proceeds.continues.start, proceeds.continues.chunkSize, ended, nextChunk,
      if_neg (Nat.succ_ne_zero _), place]
  rw [first, last] at fetching
  have many : r.stop / r.chunkSize + 1 - r.start / r.chunkSize =
      r.stop / r.chunkSize - r.start / r.chunkSize + 1 :=
    Nat.sub_add_comm (Nat.div_le_div_right ordered)
  have asked := fetching.asked_of_all positive
  rw [many] at asked
  refine ⟨asked, fun sound => ?_⟩
  rw [asked]
  exact length_inOrder_of_sound fun k => Nat.le_zero.mp (sound ▸ failuresAt_le_faults _ t)

end Range

/-- Reading a range of an object asks for its chunks one after another, at multiples of their size, each
of them when its first byte is wanted, and again only when its fetch failed. Who has read the range has
asked for all of its chunks and for none after it. Where the policy absorbs the failures no read fails;
with room for every byte, or into a sink that does not fail, the range is read to its end. Where the sums
that come up are words, all this is so of the reads in words. -/
theorem asks_for_chunks_in_order (object : Bytes) (location : String) {start stop size : Nat}
    (policy : RetryPolicy) (progress : Option (Nat × Summary)) (rooms : List Nat)
    (ordered : start ≤ stop) (whole : stop < object.size) (positive : 0 < size) :
    let length := stop - start + 1
    let new := opened location start stop length size policy progress
    let reads := readEach rooms new
    (∀ (ω : Type) (world : Answering ω), (∀ w q, ∃ reply w', world w q reply w') →
      (∀ w q reply w', world w q reply w' → Answers location object ⟨q, reply⟩) →
      ∀ w, ∃ t results r w', reads.Trace t (results, r) ∧ world.Follows w t w' ∧
        ∀ x ∈ t, Answers location object x) ∧
    (stop + max size Courier.chunkSize < wordLimit →
      (∀ interval summary, progress = some (interval, summary) →
        length ⌈/⌉ max interval 1 * max interval 1 < wordLimit) →
      ∀ overflow, Words.readEach overflow rooms new = liftM reads) ∧
    ∀ t results r, reads.Trace t (results, r) → (∀ x ∈ t, Answers location object x) →
      let next := nextChunk start size r.bytesRead
      asked t = inOrder location size (fun k => failuresAt (k * size) t) (start / size)
          (next - start / size) ++
        List.replicate (failuresAt (next * size) t) (.fetchChunk location (next * size) size) ∧
      (r.bytesRead = length → AsksAll location start stop size t) ∧
      (Absorbed policy.attempts t → (∀ x ∈ results, ∃ out, x = .ok out) ∧
        (length ≤ rooms.countP (0 < ·) → r.bytesRead = length)) ∧
      ∀ (σ : Type) (sink : Sink σ), sink.FetchesNothing → ∀ s u result r' s',
        (copyTo sink r s).Trace u (result, r', s') → (∀ x ∈ u, Answers location object x) →
        (∀ n, result = .ok n → r'.bytesRead = length) ∧
        (r'.bytesRead = length → AsksAll location start stop size (t ++ u)) ∧
        (Absorbed policy.attempts u →
          ∀ e, result = .error e → ∃ cause, e = .call (.os cause)) := by
  intro length new reads
  refine ⟨?_, fun fits boundary overflow => ?_, ?_⟩
  · intro ω world total answers w
    obtain ⟨t, ⟨results, r⟩, w', run, follows⟩ := Job.exists_trace total reads w
    exact ⟨t, results, r, w', run, follows, follows.forall_mem answers⟩
  · exact (Words.reads_in_words location policy progress ordered positive fits (by omega) boundary
      overflow rooms).1
  intro t results r run answers
  obtain ⟨fields, parts, buffer, unread⟩ :=
    opened_fields location start stop length policy progress positive
  simp only [reads, new] at run
  clear reads new
  generalize opened location start stop length size policy progress = new at *
  obtain ⟨rfl, rfl, rfl, expects, rfl, rfl⟩ := fields
  have frugal : new.Frugal := frugal_new positive ordered parts buffer unread
  have fits : Fits object new := ⟨expects, whole⟩
  obtain ⟨proceeds, sound⟩ := readEach_proceeds frugal fits run answers
  have begun : r.bytesRead ≤ r.length := by
    rw [proceeds.continues.length]
    exact (readEach_safe (unread ▸ Nat.zero_le _) run).2.2.2
  refine ⟨?_, proceeds.asksAll positive ordered unread, fun absorbed => ⟨sound absorbed, ?_⟩, ?_⟩
  · have asked := proceeds.fetching.asked_eq positive
    rw [proceeds.continues.start, proceeds.continues.chunkSize] at asked
    rwa [show nextChunk new.start new.chunkSize new.bytesRead = _ from if_pos unread] at asked
  · intro roomy
    have completes := readEach_completes (unread ▸ Nat.zero_le _) run (sound absorbed)
    rw [proceeds.continues.length, expects] at begun
    rw [unread, expects, Nat.zero_add] at completes
    exact completes.elim id fun more => Nat.le_antisymm begun (Nat.le_trans roomy more)
  · intro σ sink quiet s u result r' s' copying answers'
    obtain ⟨reads, blocks, outcome, copies, rfl⟩ := (copyTo_trace_iff begun).mp copying
    rw [← proceeds.continues.location] at answers'
    obtain ⟨rest, soundly⟩ := copies.proceeds quiet proceeds.frugal
      (fits.of_continues proceeds.continues) answers'
    refine ⟨fun n complete => ?_, (proceeds.trans rest).asksAll positive ordered unread, ?_⟩
    · have ended : outcome = .ok () := by
        cases outcome with
        | error e => exact absurd complete nofun
        | ok _ => rfl
      rw [((copies.within begun).2.2 ended).2, proceeds.continues.length, expects]
    · intro absorbed e failed
      rw [← proceeds.policy] at absorbed
      refine soundly absorbed e ?_
      cases outcome with
      | error e' => exact congrArg Except.error (Except.error.inj failed)
      | ok _ => exact absurd failed nofun

/-- Three bytes out of the middle of seven, in chunks of two, of which the second one fails once. -/
theorem asks_for_chunks_in_order_of_seven : 3 ≤ 5 ∧ 5 < (⟨#[0, 1, 2, 3, 4, 5, 6]⟩ : Bytes).size ∧ 0 < 2 ∧
    ∀ t results r, (readEach [1, 0, 5, 5] (opened "doc" 3 5 3 2 ⟨2⟩ none)).Trace t (results, r) →
      (∀ x ∈ t, Answers "doc" ⟨#[0, 1, 2, 3, 4, 5, 6]⟩ x) → Absorbed 3 t →
      failuresAt 2 t = 0 → failuresAt 4 t = 1 →
      asked t = [.fetchChunk "doc" 2 2, .fetchChunk "doc" 4 2, .fetchChunk "doc" 4 2] := by
  refine ⟨by decide, by decide, by decide, fun t results r run answers absorbed sound again => ?_⟩
  obtain ⟨-, all, completes, -⟩ := (asks_for_chunks_in_order ⟨#[0, 1, 2, 3, 4, 5, 6]⟩ "doc" ⟨2⟩ none
    [1, 0, 5, 5] (by decide) (by decide) (by decide)).2.2 t results r run answers
  have ended : r.bytesRead = 5 - 3 + 1 := (completes absorbed).2 (by decide)
  rw [(all ended).asked]
  simp [inOrder, List.range', sound, again]

end Courier.Reader

namespace Courier.Transfer

open Reader (Answers AsksAll Fits isFetch)

theorem fileSink_fetchesNothing (path : String) : (fileSink path).FetchesNothing := by
  constructor
  · intro u out t x run
    rw [fileSink_write_trace run]
    exact List.forall_mem_singleton.mpr rfl
  · intro u t x run
    rw [(Job.trace_done.mp run).1]
    exact List.forall_mem_nil _

/-- A complete download of a file asks for each of its chunks in order. -/
theorem download_asksAll {engine : Engine} {task : Task} {file : RemoteFile} {cachePath : String}
    {object : Bytes} {t : List Exchange} (size : object.size = file.size) (some_bytes : 0 < file.size)
    (run : (download engine task file cachePath).Trace t (.ok ()))
    (answers : ∀ x ∈ t, Answers file.location object x) :
    AsksAll file.location 0 (file.size - 1) chunkSize t := by
  rcases download_cases run with ⟨e, -, failed⟩ | ⟨reads, blocks, t₁, r', rfl, copies⟩
  · exact absurd failed nofun
  · obtain ⟨-, answers⟩ := List.forall_mem_cons.mp answers
    have last : file.size - 1 - 0 + 1 = file.size := by omega
    have frugal : (cacheReader engine task file).Frugal :=
      Reader.frugal_new (Nat.le_max_right ..) (Nat.zero_le _) rfl rfl rfl
    have fits : Fits object (cacheReader engine task file) :=
      ⟨last.symm, size ▸ Nat.sub_lt some_bytes Nat.one_pos⟩
    obtain ⟨proceeds, -⟩ := copies.proceeds (fileSink_fetchesNothing cachePath) frugal fits answers
    have ended : r'.bytesRead = file.size := ((copies.within (Nat.zero_le _)).2.2 rfl).2
    have created : ∀ x ∈ [(⟨.createFile cachePath, .ok ()⟩ : Exchange)], isFetch x = false :=
      List.forall_mem_singleton.mpr rfl
    exact (proceeds.after_others created).asksAll (Nat.le_max_right ..) (Nat.zero_le _) rfl
      (ended.trans last.symm)

end Courier.Transfer
