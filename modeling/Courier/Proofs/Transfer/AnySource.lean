import Courier.Proofs.Transfer.ByteLaw

/-! Reads from a source that answers as it likes: with more bytes than were asked for, with fewer or
with none, differently each time, or not at all. What a read keeps to is said of every trace. -/
namespace Courier

/-- The bytes between two places, if these are in order and not beyond the end. -/
def slice? (bytes : Bytes) (i j : Nat) : Option Bytes :=
  if i ≤ j ∧ j ≤ bytes.size then some (bytes.extract i j) else none

theorem slice?_of_le {bytes : Bytes} {i j : Nat} (ordered : i ≤ j) (within : j ≤ bytes.size) :
    slice? bytes i j = some (bytes.extract i j) :=
  if_pos ⟨ordered, within⟩

namespace Parts

/-- Where a chunk of a length is cut when it is the next part. -/
def cuts (parts : Parts) (length : Nat) : Nat × Nat :=
  if parts.count = 1 then (min parts.firstCut (min parts.lastCut length), min parts.lastCut length)
  else if parts.current = 1 then (min parts.firstCut length, length)
  else if parts.current = parts.count then (0, min parts.lastCut length)
  else (0, length)

theorem cuts_le (parts : Parts) (length : Nat) :
    (parts.cuts length).1 ≤ (parts.cuts length).2 ∧ (parts.cuts length).2 ≤ length := by
  unfold cuts
  split
  · exact ⟨Nat.min_le_right .., Nat.min_le_right ..⟩
  · split
    · exact ⟨Nat.min_le_right .., Nat.le_refl _⟩
    · split
      · exact ⟨Nat.zero_le _, Nat.min_le_right ..⟩
      · exact ⟨Nat.zero_le _, Nat.le_refl _⟩

theorem slice?_cuts (parts : Parts) (chunk : Bytes) :
    slice? chunk (parts.cuts chunk.size).1 (parts.cuts chunk.size).2 = some (parts.trim chunk) := by
  obtain ⟨ordered, within⟩ := parts.cuts_le chunk.size
  rw [slice?_of_le ordered within]
  unfold cuts trim
  split
  · rfl
  · split
    · rfl
    · split
      · rfl
      · rw [ByteArray.extract_zero_size]

theorem take_fst (parts : Parts) (chunk : Bytes) (size : Nat) :
    (parts.take chunk size).1 = parts.trim chunk := by
  unfold take
  split
  · next empty =>
    have cut := parts.slice?_cuts chunk
    obtain ⟨ordered, within⟩ := parts.cuts_le chunk.size
    rw [slice?_of_le ordered within] at cut
    rw [← Option.some.inj cut, ByteArray.size_eq_zero_iff.mp empty]
    exact (ByteArray.extract_eq_empty_iff.mpr (Nat.le_trans (Nat.min_le_right ..) (Nat.zero_le _))).symm
  · rfl

theorem pending?_eq_none_iff {parts : Parts} :
    parts.pending? = none ↔ parts.count < parts.current := by
  simp [pending?]

theorem pending?_eq_some_iff {parts : Parts} {offset : Nat} :
    parts.pending? = some offset ↔ parts.current ≤ parts.count ∧ parts.offset = offset := by
  simp [pending?]

/-- Nothing is left of the first chunk of a range if it ends before the range begins. -/
theorem trim_cover_eq_empty_iff {start stop size : Nat} (chunk : Bytes) (positive : 0 < size)
    (ordered : start ≤ stop) :
    ((cover start stop size).trim chunk).size = 0 ↔ chunk.size ≤ start % size := by
  have first : (cover start stop size).firstCut = start % size := by
    have := Nat.mod_le start size
    simp only [cover]
    omega
  obtain ⟨full, count, ending, -, -⟩ := count_cover positive ordered
  unfold trim
  rw [first]
  split
  · next only =>
    -- The range begins and ends in this chunk, so that the cut at the end is behind that at the front.
    have : full = 0 := by omega
    have : start % size < (cover start stop size).lastCut := by
      have := Nat.mod_le start size
      subst full
      omega
    rw [ByteArray.size_extract]
    omega
  · rw [if_pos (show (cover start stop size).current = 1 from rfl), ByteArray.size_extract]
    omega

end Parts

namespace Reader

variable {r r' r₁ : Reader} {t t₁ t₂ : List Exchange} {room : Nat}

/-- Whether an exchange is a call of the source for a chunk. -/
def isFetch : Exchange → Bool
  | ⟨.fetchChunk .., _⟩ => true
  | _ => false

/-- The request of one chunk, which calls the source again when it fails. -/
def requestChunk (r : Reader) (offset : Nat) : Job (Except TransferError Bytes) :=
  fetchWithRetry r.policy (Job.request (.fetchChunk r.location offset r.chunkSize))

/-- Whether exchanges are those of one chunk request at most: calls of the source for one chunk, no more
of them than the policy has attempts, and looks at the cancellation. -/
def OneRequest (r : Reader) (t : List Exchange) : Prop :=
  (∃ offset, ∀ x ∈ t, x.1 = .canceled ∨ x.1 = .fetchChunk r.location offset r.chunkSize) ∧
    t.countP isFetch ≤ r.policy.attempts

theorem oneRequest_nil (r : Reader) : r.OneRequest [] :=
  ⟨⟨0, List.forall_mem_nil _⟩, Nat.zero_le _⟩

theorem requestChunk_trace {offset : Nat} {result : Except TransferError Bytes}
    (run : (r.requestChunk offset).Trace t result) : r.OneRequest t := by
  have fetch_once : ∀ {t outcome}, Job.Trace (do
      return orCanceled (← Job.request (.fetchChunk r.location offset r.chunkSize))) t outcome →
      t.countP isFetch ≤ 1 := by
    intro t outcome made
    obtain ⟨reply, fetched, -⟩ := attempt_trace made
    simp only [Job.request, Job.trace_ask, Job.trace_done] at fetched
    obtain ⟨_, _, rfl, rfl, -⟩ := fetched
    exact List.countP_le_length
  constructor
  · have asks : (r.requestChunk offset).Asks fun q =>
        q = .canceled ∨ q = .fetchChunk r.location offset r.chunkSize :=
      fetchWithRetry_asks r.policy (Or.inl rfl) ⟨Or.inr rfl, fun _ => Job.asks_done ..⟩
    exact ⟨offset, asks.forall_mem run⟩
  · simp only [requestChunk, fetchWithRetry, Job.bind_eq, Job.trace_bind] at run
    obtain ⟨outcome, t₁, t₂, rfl, tried, rest⟩ := run
    have ended : t₂ = [] := by
      rcases outcome with (_ | _) | _ <;> exact (Job.trace_done.mp rest).1
    rw [ended, List.append_nil]
    exact withRetry_countP_le (fun _ => rfl) (fun _ _ _ => fetch_once) tried

theorem requestChunk_error {offset : Nat} {e : TransferError}
    (run : (r.requestChunk offset).Trace t (.error e)) : ∃ x ∈ t, fault? x = some e := by
  rcases fetchWithRetry_trace run with ⟨_, _, _, gave, -⟩ | ⟨_, same, failed⟩
  · exact absurd gave nofun
  · obtain rfl := Except.error.inj same
    exact exists_fault failed

theorem fault?_ne_shortRead (x : Exchange) (expected actual : Nat) :
    fault? x ≠ some (.shortRead expected actual) := by
  unfold fault?
  split
  · nofun
  · nofun
  · unfold fetchFailure
    split <;> nofun
  · nofun

/-- Whether the fetch of a part comes out empty: no part is left, or nothing is left of its chunk once it
is trimmed. -/
def Blank (r : Reader) (t : List Exchange) : Prop :=
  r.parts.count < r.parts.current ∧ t = [] ∨
  r.parts.current ≤ r.parts.count ∧ ∃ chunk,
    (r.requestChunk r.parts.offset).Trace t (.ok chunk) ∧ (r.parts.trim chunk).size = 0

/-- Whether the fetch of the first part of the range comes out empty: its chunk, which is asked for at
the last multiple of the chunk size up to the start, ends before the range begins. -/
def BlankAnew (r : Reader) (t : List Exchange) : Prop :=
  ∃ chunk, (r.requestChunk (r.start - r.start % r.chunkSize)).Trace t (.ok chunk) ∧
    chunk.size ≤ r.start % r.chunkSize

theorem blank_restart_iff (positive : 0 < r.chunkSize) (ordered : r.start ≤ r.stop) :
    r.restart.Blank t ↔ r.BlankAnew t := by
  have some_part : r.restart.parts.current ≤ r.restart.parts.count := by
    obtain ⟨full, count, -⟩ := Parts.count_cover positive ordered
    exact count ▸ Nat.succ_le_succ (Nat.zero_le full)
  have cut (chunk : Bytes) := Parts.trim_cover_eq_empty_iff chunk positive ordered
  constructor
  · rintro (⟨none, -⟩ | ⟨-, chunk, requested, empty⟩)
    · exact absurd some_part (Nat.not_le_of_lt none)
    · exact ⟨chunk, requested, (cut chunk).mp empty⟩
  · rintro ⟨chunk, requested, short⟩
    exact Or.inr ⟨some_part, chunk, requested, (cut chunk).mpr short⟩

theorem fetchNext_cases {result : Except TransferError Bytes}
    (run : r.fetchNext.Trace t (result, r')) :
    r.OneRequest t ∧
      ((∃ part parts, result = .ok part ∧ r' = { r with parts } ∧ (part.size = 0 → r.Blank t)) ∨
      ∃ e, result = .error e ∧ r' = r ∧ ∃ x ∈ t, fault? x = some e) := by
  unfold fetchNext at run
  cases pending : r.parts.pending? with
  | none =>
    simp only [pending, Job.pure_eq, Job.trace_done, Prod.mk.injEq] at run
    obtain ⟨rfl, rfl, rfl⟩ := run
    have blank : r'.Blank [] := Or.inl ⟨Parts.pending?_eq_none_iff.mp pending, rfl⟩
    exact ⟨oneRequest_nil _, Or.inl ⟨_, r'.parts, rfl, rfl, fun _ => blank⟩⟩
  | some offset =>
    simp only [pending, Job.bind_eq, Job.trace_bind] at run
    obtain ⟨outcome, t₁, t₂, rfl, requested, rest⟩ := run
    have one : r.OneRequest t₁ := requestChunk_trace requested
    cases outcome with
    | error e =>
      simp only [Job.pure_eq, Job.trace_done, Prod.mk.injEq] at rest
      obtain ⟨rfl, rfl, rfl⟩ := rest
      rw [List.append_nil]
      exact ⟨one, Or.inr ⟨e, rfl, rfl, requestChunk_error requested⟩⟩
    | ok chunk =>
      simp only [Job.pure_eq, Job.trace_done, Prod.mk.injEq] at rest
      obtain ⟨rfl, rfl, rfl⟩ := rest
      rw [List.append_nil]
      refine ⟨one, Or.inl ⟨_, _, rfl, rfl, ?_⟩⟩
      intro empty
      rw [Parts.take_fst] at empty
      obtain ⟨left, rfl⟩ := Parts.pending?_eq_some_iff.mp pending
      exact Or.inr ⟨left, chunk, requested, empty⟩

theorem Blank.fetchNext (blank : r.Blank t) :
    ∃ part parts, part.size = 0 ∧ r.fetchNext.Trace t (.ok part, { r with parts }) := by
  unfold Reader.fetchNext
  rcases blank with ⟨none, rfl⟩ | ⟨left, chunk, requested, empty⟩
  · rw [Parts.pending?_eq_none_iff.mpr none]
    exact ⟨_, r.parts, rfl, .done _⟩
  · rw [Parts.pending?_eq_some_iff.mpr ⟨left, rfl⟩]
    simp only [Job.bind_eq, Job.trace_bind]
    refine ⟨_, _, ?_, .ok chunk, t, [], (List.append_nil t).symm, requested, .done _⟩
    rw [Parts.take_fst]
    exact empty

theorem refillAnew_cases {result : Except TransferError Unit}
    (run : r.refillAnew.Trace t (result, r')) :
    (∃ parts buffer cursor, r' = { r with parts, buffer, cursor }) ∧ r.OneRequest t ∧
      (result = .ok () → r'.cursor < r'.buffer.size) ∧
      ∀ e, result = .error e → (∃ x ∈ t, fault? x = some e) ∨
        e = .shortRead r.length r.bytesRead ∧ r.restart.Blank t := by
  simp only [refillAnew, Job.bind_eq, Job.trace_bind] at run
  obtain ⟨⟨next, r₁⟩, t₁, t₂, rfl, fetched, rest⟩ := run
  obtain ⟨one, ⟨part, parts, rfl, rfl, blank⟩ | ⟨e, rfl, rfl, fault⟩⟩ := fetchNext_cases fetched
  · by_cases empty : part.size = 0
    · simp only [if_neg (not_not_intro empty), Job.pure_eq, Job.trace_done, Prod.mk.injEq] at rest
      obtain ⟨rfl, rfl, rfl⟩ := rest
      rw [List.append_nil]
      refine ⟨⟨_, _, _, rfl⟩, one, nofun, ?_⟩
      intro e same
      exact Or.inr ⟨(Except.error.inj same).symm, blank empty⟩
    · simp only [if_pos empty, Job.pure_eq, Job.trace_done, Prod.mk.injEq] at rest
      obtain ⟨rfl, rfl, rfl⟩ := rest
      rw [List.append_nil]
      exact ⟨⟨_, _, _, rfl⟩, one, fun _ => Nat.pos_of_ne_zero empty, nofun⟩
  · simp only [Job.pure_eq, Job.trace_done, Prod.mk.injEq] at rest
    obtain ⟨rfl, rfl, rfl⟩ := rest
    rw [List.append_nil]
    refine ⟨⟨_, _, _, rfl⟩, one, nofun, ?_⟩
    intro e same
    exact Or.inl (Except.error.inj same ▸ fault)

/-- What filling the used-up buffer comes to. -/
structure Fills (r : Reader) (t : List Exchange) (result : Except TransferError Unit) (r' : Reader) :
    Prop where
  kept : ∃ parts buffer cursor, r' = { r with parts, buffer, cursor }
  requests : ∃ t₁ t₂, t = t₁ ++ t₂ ∧ r.OneRequest t₁ ∧ r.OneRequest t₂
  filled : result = .ok () → r'.cursor < r'.buffer.size
  fails : ∀ e, result = .error e → (∃ x ∈ t, fault? x = some e) ∨
    e = .shortRead r.length r.bytesRead ∧ ∃ t₁ t₂, t = t₁ ++ t₂ ∧ r.Blank t₁ ∧ r.restart.Blank t₂

theorem refill_fills {result : Except TransferError Unit} (run : r.refill.Trace t (result, r')) :
    Fills r t result r' := by
  simp only [refill, Job.bind_eq, Job.trace_bind] at run
  obtain ⟨⟨next, r₁⟩, t₁, t₂, rfl, fetched, rest⟩ := run
  obtain ⟨one, ⟨part, parts, rfl, rfl, blank⟩ | ⟨e, rfl, rfl, fault⟩⟩ := fetchNext_cases fetched
  · by_cases empty : part.size = 0
    · -- The range is begun anew, which takes another request.
      simp only [if_neg (not_not_intro empty)] at rest
      obtain ⟨⟨parts₂, buffer, cursor, rfl⟩, one₂, filled, fails⟩ := refillAnew_cases rest
      refine ⟨⟨parts₂, buffer, cursor, rfl⟩, ⟨t₁, t₂, rfl, one, one₂⟩, filled, ?_⟩
      intro e same
      rcases fails e same with ⟨x, hx, fault⟩ | ⟨short, blank₂⟩
      · exact Or.inl ⟨x, List.mem_append_right t₁ hx, fault⟩
      · exact Or.inr ⟨short, t₁, t₂, rfl, blank empty, blank₂⟩
    · simp only [if_pos empty, Job.pure_eq, Job.trace_done, Prod.mk.injEq] at rest
      obtain ⟨rfl, rfl, rfl⟩ := rest
      exact ⟨⟨_, _, _, rfl⟩, ⟨t₁, [], rfl, one, oneRequest_nil r⟩,
        fun _ => Nat.pos_of_ne_zero empty, nofun⟩
  · simp only [Job.pure_eq, Job.trace_done, Prod.mk.injEq] at rest
    obtain ⟨rfl, rfl, rfl⟩ := rest
    rw [List.append_nil]
    refine ⟨⟨_, _, _, rfl⟩, ⟨t₁, [], (List.append_nil _).symm, one, oneRequest_nil _⟩, nofun, ?_⟩
    intro e same
    exact Or.inl (Except.error.inj same ▸ fault)

theorem refillAnew_of_blank (blank : r.restart.Blank t) :
    ∃ r', r.refillAnew.Trace t (.error (.shortRead r.length r.bytesRead), r') := by
  obtain ⟨part, parts, empty, fetched⟩ := blank.fetchNext
  refine ⟨{ r with parts, buffer := part }, ?_⟩
  unfold refillAnew
  refine Job.trace_bind.mpr ⟨_, t, [], (List.append_nil t).symm, fetched, ?_⟩
  simp only [if_neg (not_not_intro empty)]
  exact .done _

theorem refill_of_blank (first : r.Blank t₁) (again : r.restart.Blank t₂) :
    ∃ r', r.refill.Trace (t₁ ++ t₂) (.error (.shortRead r.length r.bytesRead), r') := by
  obtain ⟨part, parts, empty, fetched⟩ := first.fetchNext
  obtain ⟨r', short⟩ := refillAnew_of_blank (r := { r with parts, buffer := part }) again
  refine ⟨r', ?_⟩
  unfold refill
  refine Job.trace_bind.mpr ⟨_, t₁, t₂, rfl, fetched, ?_⟩
  simp only [if_neg (not_not_intro empty)]
  exact short

theorem report_cases (run : r.report.Trace t r') :
    (r.progress = none ∧ t = [] ∧ r' = r) ∨
    ∃ throttle summary, r.progress = some (throttle, summary) ∧
      t = (if (throttle.observe r.bytesRead).1 then [⟨.progress summary r.bytesRead r.length, ()⟩]
        else []) ∧
      r' = { r with progress := some ((throttle.observe r.bytesRead).2, summary) } := by
  unfold report at run
  cases installed : r.progress with
  | none =>
    simp only [installed, Job.pure_eq, Job.trace_done] at run
    exact Or.inl ⟨rfl, run⟩
  | some p =>
    obtain ⟨throttle, summary⟩ := p
    simp only [installed] at run
    refine Or.inr ⟨throttle, summary, rfl, ?_⟩
    split at run
    · next due =>
      simp only [Job.bind_eq, Job.request, Job.ask_bind, Job.done_bind, Job.trace_ask, Job.pure_eq,
        Job.trace_done] at run
      obtain ⟨_, _, rfl, rfl, rfl⟩ := run
      rw [if_pos due]
      exact ⟨rfl, rfl⟩
    · next quiet =>
      simp only [Job.pure_eq, Job.trace_done] at run
      rw [if_neg quiet]
      exact run

theorem report_tells (run : r.report.Trace t r') : (∃ progress, r' = { r with progress }) ∧
    ∀ x ∈ t, ∃ summary read total, x.1 = .progress summary read total := by
  rcases report_cases run with ⟨-, rfl, rfl⟩ | ⟨throttle, summary, -, rfl, rfl⟩
  · exact ⟨⟨_, rfl⟩, List.forall_mem_nil _⟩
  · refine ⟨⟨_, rfl⟩, ?_⟩
    intro x hx
    split at hx
    · rw [List.mem_singleton.mp hx]
      exact ⟨_, _, _, rfl⟩
    · exact absurd hx List.not_mem_nil

/-- A reader that has given out bytes of its buffer and has not reported it. -/
def handOut (r : Reader) (room : Nat) : Reader :=
  { r with cursor := r.cursor + r.portion room, bytesRead := r.bytesRead + r.portion room }

/-- The ways of a read. -/
inductive Reads (r : Reader) (room : Nat) :
    List Exchange → Except TransferError Bytes → Reader → Prop where
  | idle (nothing : r.length ≤ r.bytesRead ∨ room = 0) : Reads r room [] (.ok ByteArray.empty) r
  | failing {t : List Exchange} {e : TransferError} {r' : Reader} (more : r.bytesRead < r.length)
      (roomy : 0 < room) (used : r.buffer.size ≤ r.cursor) (filling : Fills r t (.error e) r') :
      Reads r room t (.error e) r'
  /-- The buffer has bytes, perhaps only after it was filled. -/
  | giving {t₁ t₂ : List Exchange} {r₁ r' : Reader} (more : r.bytesRead < r.length)
      (roomy : 0 < room) (filling : Fills r t₁ (.ok ()) r₁)
      (telling : (r₁.handOut room).report.Trace t₂ r') :
      Reads r room (t₁ ++ t₂) (.ok (r₁.buffer.extract r₁.cursor (r₁.cursor + r₁.portion room))) r'

theorem fills_of_unread (unread : r.cursor < r.buffer.size) : Fills r [] (.ok ()) r :=
  ⟨⟨_, _, _, rfl⟩, ⟨[], [], rfl, oneRequest_nil r, oneRequest_nil r⟩, fun _ => unread, nofun⟩

theorem reads_of_trace {result : Except TransferError Bytes}
    (run : (r.read room).Trace t (result, r')) : Reads r room t result r' := by
  unfold read at run
  by_cases idle : r.bytesRead ≥ r.length ∨ room = 0
  · simp only [if_pos idle, Job.pure_eq, Job.trace_done, Prod.mk.injEq] at run
    obtain ⟨rfl, rfl, rfl⟩ := run
    exact .idle idle
  · rw [if_neg idle] at run
    rw [not_or] at idle
    have more : r.bytesRead < r.length := Nat.lt_of_not_le idle.1
    have roomy : 0 < room := Nat.pos_of_ne_zero idle.2
    -- However the buffer has got its bytes, the rest of the read is the same.
    have giving {t₁ t₂ : List Exchange} {r₁ : Reader} (filling : Fills r t₁ (.ok ()) r₁)
        (run : (r₁.consume room).Trace t₂ (result, r')) : Reads r room (t₁ ++ t₂) result r' := by
      simp only [consume, Job.bind_eq, Job.trace_bind, Job.pure_eq, Job.trace_done,
        Prod.mk.injEq] at run
      obtain ⟨r₂, t₂, _, rfl, telling, rfl, rfl, rfl⟩ := run
      rw [List.append_nil]
      exact .giving more roomy filling telling
    by_cases unread : r.cursor < r.buffer.size
    · rw [if_pos unread] at run
      exact giving (fills_of_unread unread) run
    · simp only [if_neg unread, Job.bind_eq, Job.trace_bind] at run
      obtain ⟨⟨filled, r₁⟩, t₁, t₂, rfl, refilled, rest⟩ := run
      cases filled with
      | error e =>
        simp only [Job.pure_eq, Job.trace_done, Prod.mk.injEq] at rest
        obtain ⟨rfl, rfl, rfl⟩ := rest
        rw [List.append_nil]
        exact .failing more roomy (Nat.le_of_not_lt unread) (refill_fills refilled)
      | ok _ => exact giving (refill_fills refilled) rest

/-- Whether a read fetches two parts that both come out empty: the one that is next, and then the first
of the range. -/
def Dry (r : Reader) (room : Nat) (t : List Exchange) : Prop :=
  r.bytesRead < r.length ∧ 0 < room ∧ r.buffer.size ≤ r.cursor ∧
    ∃ t₁ t₂, t = t₁ ++ t₂ ∧ r.Blank t₁ ∧ r.BlankAnew t₂

theorem Dry.trace (dry : r.Dry room t) (positive : 0 < r.chunkSize) (ordered : r.start ≤ r.stop) :
    ∃ r', (r.read room).Trace t (.error (.shortRead r.length r.bytesRead), r') := by
  obtain ⟨more, roomy, used, t₁, t₂, rfl, first, again⟩ := dry
  obtain ⟨r', filling⟩ := refill_of_blank first ((blank_restart_iff positive ordered).mpr again)
  refine ⟨r', ?_⟩
  unfold read
  rw [if_neg (not_or.mpr ⟨Nat.not_le_of_lt more, Nat.ne_of_gt roomy⟩), if_neg (Nat.not_lt_of_le used)]
  exact Job.trace_bind.mpr ⟨_, t₁ ++ t₂, [], (List.append_nil _).symm, filling, .done _⟩

/-- What a read keeps to, whatever it is answered. -/
structure Safe (r : Reader) (room : Nat) (t : List Exchange) (result : Except TransferError Bytes)
    (r' : Reader) : Prop where
  continues : Continues r r'
  policy : r'.policy = r.policy
  /-- There are two chunk requests at most, and then at most reports. -/
  requests : ∃ t₁ t₂ told, t = t₁ ++ t₂ ++ told ∧ r.OneRequest t₁ ∧ r.OneRequest t₂ ∧
    ∀ x ∈ told, ∃ summary read total, x.1 = .progress summary read total
  gives : ∀ out, result = .ok out → out.size ≤ room ∧ r'.bytesRead = r.bytesRead + out.size ∧
    r'.bytesRead ≤ r.length ∧ (out.size = 0 ↔ room = 0 ∨ r.bytesRead = r.length)
  /-- What is given out is a slice of the buffer within its bounds. -/
  slice : ∀ out, result = .ok out → 0 < out.size →
    ∃ cursor, r'.cursor = cursor + out.size ∧ slice? r'.buffer cursor (cursor + out.size) = some out
  /-- A failed fetch or a cancellation is told as such. -/
  fails : ∀ e, result = .error e → r'.bytesRead = r.bytesRead ∧
    ((∃ x ∈ t, fault? x = some e) ∨ ∃ expected actual, e = .shortRead expected actual)

theorem Fills.handOut {r₁ : Reader} (filling : Fills r t (.ok ()) r₁) (more : r.bytesRead < r.length)
    (roomy : 0 < room) :
    let n := r₁.portion room
    slice? r₁.buffer r₁.cursor (r₁.cursor + n) = some (r₁.buffer.extract r₁.cursor (r₁.cursor + n)) ∧
      (r₁.buffer.extract r₁.cursor (r₁.cursor + n)).size = n ∧ 0 < n ∧ n ≤ room ∧
      n ≤ r.length - r.bytesRead := by
  obtain ⟨parts, buffer, cursor, rfl⟩ := filling.kept
  have unread : cursor < buffer.size := filling.filled rfl
  obtain ⟨within, fits, wanted⟩ := portion_le { r with parts, buffer, cursor } room
  have positive : 0 < portion { r with parts, buffer, cursor } room :=
    portion_pos (Nat.sub_pos_of_lt unread) roomy more
  have inside : cursor + portion { r with parts, buffer, cursor } room ≤ buffer.size := by
    have : portion { r with parts, buffer, cursor } room ≤ buffer.size - cursor := within
    omega
  refine ⟨slice?_of_le (Nat.le_add_right ..) inside, ?_, positive, fits, wanted⟩
  rw [ByteArray.size_extract, Nat.min_eq_left inside, Nat.add_sub_cancel_left]

theorem read_safe {result : Except TransferError Bytes} (begun : r.bytesRead ≤ r.length)
    (run : (r.read room).Trace t (result, r')) : Safe r room t result r' := by
  cases reads_of_trace run with
  | idle nothing =>
    refine {
      continues := ⟨rfl, rfl, rfl, rfl, rfl⟩
      policy := rfl
      requests := ⟨[], [], [], rfl, oneRequest_nil r, oneRequest_nil r, List.forall_mem_nil _⟩
      gives := ?gives
      slice := ?slice
      fails := nofun }
    case gives =>
      rintro out ⟨⟩
      have ended : room = 0 ∨ r.bytesRead = r.length := by omega
      exact ⟨Nat.zero_le _, rfl, begun, fun _ => ended, fun _ => rfl⟩
    case slice =>
      rintro out ⟨⟩ positive
      exact absurd positive (Nat.lt_irrefl 0)
  | failing more roomy used filling =>
    obtain ⟨parts, buffer, cursor, rfl⟩ := filling.kept
    obtain ⟨t₁, t₂, rfl, one₁, one₂⟩ := filling.requests
    refine {
      continues := ⟨rfl, rfl, rfl, rfl, rfl⟩
      policy := rfl
      requests := ⟨t₁, t₂, [], (List.append_nil _).symm, one₁, one₂, List.forall_mem_nil _⟩
      gives := nofun
      slice := nofun
      fails := ?fails }
    case fails =>
      rintro _ ⟨⟩
      refine ⟨rfl, (filling.fails _ rfl).imp_right ?_⟩
      rintro ⟨same, -⟩
      exact ⟨_, _, same⟩
  | @giving t₁ t₂ r₁ _ more roomy filling telling =>
    obtain ⟨within, size, positive, fits, wanted⟩ := filling.handOut more roomy
    obtain ⟨t₃, t₄, rfl, one₁, one₂⟩ := filling.requests
    obtain ⟨parts, buffer, cursor, rfl⟩ := filling.kept
    obtain ⟨⟨progress, rfl⟩, told⟩ := report_tells telling
    refine {
      continues := ⟨rfl, rfl, rfl, rfl, rfl⟩
      policy := rfl
      requests := ⟨t₃, t₄, t₂, rfl, one₁, one₂, told⟩
      gives := ?gives
      slice := ?slice
      fails := nofun }
    case gives =>
      rintro out ⟨⟩
      rw [size]
      have below : r.bytesRead + portion { r with parts, buffer, cursor } room ≤ r.length := by omega
      refine ⟨fits, rfl, below, ?_, ?_⟩
      · intro empty
        omega
      · intro nothing
        omega
    case slice =>
      rintro out ⟨⟩ -
      rw [size]
      exact ⟨cursor, rfl, within⟩

/-- A read is short just when it is dry, and it tells what it has. -/
theorem read_short_iff {result : Except TransferError Bytes} (positive : 0 < r.chunkSize)
    (ordered : r.start ≤ r.stop) (run : (r.read room).Trace t (result, r')) (expected actual : Nat) :
    result = .error (.shortRead expected actual) ↔
      expected = r.length ∧ actual = r.bytesRead ∧ r.Dry room t := by
  constructor
  · rintro rfl
    cases reads_of_trace run with
    | failing more roomy used filling =>
      -- A short read comes of no failed fetch, so that both fetches came out empty.
      rcases filling.fails _ rfl with ⟨x, -, fault⟩ | ⟨same, t₁, t₂, rfl, first, again⟩
      · exact absurd fault (fault?_ne_shortRead x expected actual)
      · obtain ⟨rfl, rfl⟩ := TransferError.shortRead.inj same
        exact ⟨rfl, rfl, more, roomy, used, t₁, t₂, rfl, first,
          (blank_restart_iff positive ordered).mp again⟩
  · rintro ⟨rfl, rfl, dry⟩
    -- The same answers lead to a short read, and they lead to one result only.
    obtain ⟨r₁, short⟩ := dry.trace positive ordered
    exact congrArg Prod.fst (run.unique short)

theorem readEach_safe {rooms : List Nat} {results : List (Except TransferError Bytes)}
    (begun : r.bytesRead ≤ r.length) (run : (readEach rooms r).Trace t (results, r')) :
    Continues r r' ∧ r'.policy = r.policy ∧ r'.bytesRead = r.bytesRead + (given results).length ∧
      r'.bytesRead ≤ r.length := by
  induction rooms generalizing r t results with
  | nil =>
    simp only [readEach, Job.pure_eq, Job.trace_done, Prod.mk.injEq] at run
    obtain ⟨rfl, rfl, rfl⟩ := run
    exact ⟨⟨rfl, rfl, rfl, rfl, rfl⟩, rfl, rfl, begun⟩
  | cons room rooms ih =>
    obtain ⟨result, later, r₁, t₁, t₂, rfl, rfl, first, others⟩ := readEach_cons run
    have safe : Safe r room t₁ result r₁ := read_safe begun first
    cases result with
    | error e =>
      have same : r₁.bytesRead = r.bytesRead := (safe.fails e rfl).1
      have begun₁ : r₁.bytesRead ≤ r₁.length := by
        rw [safe.continues.length, same]
        exact begun
      obtain ⟨continues, policy, read, within⟩ := ih begun₁ others
      rw [safe.continues.length] at within
      rw [same] at read
      exact ⟨safe.continues.trans continues, policy.trans safe.policy, read, within⟩
    | ok out =>
      obtain ⟨-, more, below, -⟩ := safe.gives out rfl
      have begun₁ : r₁.bytesRead ≤ r₁.length := by
        rw [safe.continues.length]
        exact below
      obtain ⟨continues, policy, read, within⟩ := ih begun₁ others
      rw [safe.continues.length] at within
      have bytes : (given (.ok out :: later)).length = out.size + (given later).length := by
        rw [given, List.length_append, Array.length_toList, ByteArray.size_data]
      have counted : r'.bytesRead = r.bytesRead + (given (.ok out :: later)).length := by
        calc r'.bytesRead = r₁.bytesRead + (given later).length := read
          _ = r.bytesRead + (given (.ok out :: later)).length := by rw [more, bytes, Nat.add_assoc]
      exact ⟨safe.continues.trans continues, policy.trans safe.policy, counted, within⟩

end Reader

end Courier
