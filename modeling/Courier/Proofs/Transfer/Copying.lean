import Courier.Proofs.Transfer.AnySource

/-! Copying from a source that answers as it likes. The copy is a loop without a bound of its own; each
of its reads but the last gives a byte at least, so that it ends within the bytes that are expected. -/
namespace Courier.Reader

variable {σ : Type} {sink : Sink σ} {r r' : Reader} {s s' : σ} {reads : Nat} {blocks : List Bytes}
  {t : List Exchange} {outcome : Except TransferError Unit} {written bound : Nat}

/-- Copying on and on: each block that is read is written, until a read gives none or something fails.
The reads are counted, and the blocks are those that have been written. -/
inductive Copies (sink : Sink σ) : Reader → σ → Nat → List Bytes → List Exchange →
    Except TransferError Unit → Reader → σ → Prop where
  | unread {r r' : Reader} {s : σ} {t : List Exchange} {e : TransferError}
      (reading : (r.read copyRoom).Trace t (.error e, r')) : Copies sink r s 1 [] t (.error e) r' s
  | flushed {r r' : Reader} {s s' : σ} {t₁ t₂ : List Exchange} {out : Bytes}
      (reading : (r.read copyRoom).Trace t₁ (.ok out, r')) (empty : out.size = 0)
      (flushing : (sink.flush s).Trace t₂ (.ok (), s')) : Copies sink r s 1 [] (t₁ ++ t₂) (.ok ()) r' s'
  | unflushed {r r' : Reader} {s s' : σ} {t₁ t₂ : List Exchange} {out : Bytes} {e : OsError}
      (reading : (r.read copyRoom).Trace t₁ (.ok out, r')) (empty : out.size = 0)
      (flushing : (sink.flush s).Trace t₂ (.error e, s')) :
      Copies sink r s 1 [] (t₁ ++ t₂) (.error (.call (.os e))) r' s'
  | unwritten {r r' : Reader} {s s' : σ} {t₁ t₂ : List Exchange} {out : Bytes} {e : OsError}
      (reading : (r.read copyRoom).Trace t₁ (.ok out, r')) (filled : out.size ≠ 0)
      (writing : (sink.write s out).Trace t₂ (.error e, s')) :
      Copies sink r s 1 [] (t₁ ++ t₂) (.error (.call (.os e))) r' s'
  | block {r r₁ r' : Reader} {s s₁ s' : σ} {t₁ t₂ t₃ : List Exchange} {out : Bytes} {reads : Nat}
      {blocks : List Bytes} {outcome : Except TransferError Unit}
      (reading : (r.read copyRoom).Trace t₁ (.ok out, r₁)) (filled : out.size ≠ 0)
      (writing : (sink.write s out).Trace t₂ (.ok (), s₁))
      (others : Copies sink r₁ s₁ reads blocks t₃ outcome r' s') :
      Copies sink r s (reads + 1) (out :: blocks) (t₁ ++ (t₂ ++ t₃)) outcome r' s'

def copied : List Bytes → Nat
  | [] => 0
  | out :: blocks => out.size + copied blocks

theorem read_empty {out : Bytes} (begun : r.bytesRead ≤ r.length)
    (reading : (r.read copyRoom).Trace t (.ok out, r')) (empty : out.size = 0) :
    r.bytesRead = r.length ∧ r'.bytesRead = r.length := by
  obtain ⟨-, read, -, idle⟩ := (read_safe begun reading).gives out rfl
  rcases idle.mp empty with roomless | ended
  · exact absurd roomless (by decide)
  · exact ⟨ended, by omega⟩

theorem read_fewer {out : Bytes} (begun : r.bytesRead ≤ r.length)
    (reading : (r.read copyRoom).Trace t (.ok out, r')) :
    r'.length = r.length ∧ r'.bytesRead ≤ r'.length ∧
      r'.length - r'.bytesRead + out.size = r.length - r.bytesRead := by
  have safe : Safe r copyRoom t (.ok out) r' := read_safe begun reading
  obtain ⟨-, read, below, -⟩ := safe.gives out rfl
  have length : r'.length = r.length := safe.continues.length
  exact ⟨length, by omega, by omega⟩

/-- The bounded loop is the unbounded one when it may read more often than bytes are to come. -/
theorem copyLoop_copies {result : Except TransferError Nat} (begun : r.bytesRead ≤ r.length)
    (enough : r.length - r.bytesRead < bound)
    (run : (copyLoop sink r s written bound).Trace t (result, r', s')) :
    ∃ reads blocks outcome, Copies sink r s reads blocks t outcome r' s' ∧
      result = outcome.map fun _ => written + copied blocks := by
  -- A read uses up one of those that are allowed, and leaves fewer bytes to come.
  induction bound generalizing r s t written with
  | zero => exact absurd enough (Nat.not_lt_zero _)
  | succ bound ih =>
    simp only [copyLoop, Job.bind_eq, Job.trace_bind] at run
    obtain ⟨⟨next, r₁⟩, t₁, t₂, rfl, reading, rest⟩ := run
    cases next with
    | error e =>
      simp only [Job.pure_eq, Job.trace_done, Prod.mk.injEq] at rest
      obtain ⟨rfl, rfl, rfl, rfl⟩ := rest
      rw [List.append_nil]
      exact ⟨1, [], _, .unread reading, rfl⟩
    | ok out =>
      by_cases empty : out.size = 0
      · -- Nothing more comes, and what has been written is flushed.
        simp only [if_pos empty, Job.trace_bind] at rest
        obtain ⟨⟨flushed, s₁⟩, t₂, t₃, rfl, flushing, rest⟩ := rest
        cases flushed with
        | error e =>
          simp only [Job.pure_eq, Job.trace_done, Prod.mk.injEq] at rest
          obtain ⟨rfl, rfl, rfl, rfl⟩ := rest
          rw [List.append_nil]
          exact ⟨1, [], _, .unflushed reading empty flushing, rfl⟩
        | ok _ =>
          simp only [Job.pure_eq, Job.trace_done, Prod.mk.injEq] at rest
          obtain ⟨rfl, rfl, rfl, rfl⟩ := rest
          rw [List.append_nil]
          exact ⟨1, [], _, .flushed reading empty flushing, rfl⟩
      · -- A block is written, and unless that fails the loop goes on.
        simp only [if_neg empty, Job.trace_bind] at rest
        obtain ⟨⟨wrote, s₁⟩, t₂, t₃, rfl, writing, rest⟩ := rest
        cases wrote with
        | error e =>
          simp only [Job.pure_eq, Job.trace_done, Prod.mk.injEq] at rest
          obtain ⟨rfl, rfl, rfl, rfl⟩ := rest
          rw [List.append_nil]
          exact ⟨1, [], _, .unwritten reading empty writing, rfl⟩
        | ok _ =>
          obtain ⟨-, begun₁, fewer⟩ := read_fewer begun reading
          obtain ⟨reads, blocks, outcome, copies, rfl⟩ := ih begun₁ (by omega) rest
          refine ⟨reads + 1, out :: blocks, outcome, .block reading empty writing copies, ?_⟩
          rw [copied, Nat.add_assoc]

theorem Copies.copyLoop (copies : Copies sink r s reads blocks t outcome r' s')
    (begun : r.bytesRead ≤ r.length) (enough : r.length - r.bytesRead ≤ bound) :
    (Reader.copyLoop sink r s written (bound + 1)).Trace t
      (outcome.map fun _ => written + copied blocks, r', s') := by
  induction copies generalizing bound written with
  | unread reading =>
    exact Job.trace_bind.mpr ⟨_, _, [], (List.append_nil _).symm, reading, .done _⟩
  | flushed reading empty flushing =>
    refine Job.trace_bind.mpr ⟨_, _, _, rfl, reading, ?_⟩
    simp only [if_pos empty]
    exact Job.trace_bind.mpr ⟨_, _, [], (List.append_nil _).symm, flushing, .done _⟩
  | unflushed reading empty flushing =>
    refine Job.trace_bind.mpr ⟨_, _, _, rfl, reading, ?_⟩
    simp only [if_pos empty]
    exact Job.trace_bind.mpr ⟨_, _, [], (List.append_nil _).symm, flushing, .done _⟩
  | unwritten reading filled writing =>
    refine Job.trace_bind.mpr ⟨_, _, _, rfl, reading, ?_⟩
    simp only [if_neg filled]
    exact Job.trace_bind.mpr ⟨_, _, [], (List.append_nil _).symm, writing, .done _⟩
  | block reading filled writing _ ih =>
    obtain ⟨-, begun₁, fewer⟩ := read_fewer begun reading
    -- Where a block is read bytes are to come, so that another read is allowed.
    obtain ⟨bound, rfl⟩ : ∃ fewer, bound = fewer + 1 := Nat.exists_eq_succ_of_ne_zero (by omega)
    refine Job.trace_bind.mpr ⟨_, _, _, rfl, reading, ?_⟩
    simp only [if_neg filled]
    refine Job.trace_bind.mpr ⟨_, _, _, rfl, writing, ?_⟩
    rw [copied, ← Nat.add_assoc]
    exact ih begun₁ (by omega)

/-- There is a read for each block and a last one, and no more blocks than bytes to come; they are all
of these where nothing fails. -/
theorem Copies.within (copies : Copies sink r s reads blocks t outcome r' s')
    (begun : r.bytesRead ≤ r.length) :
    reads ≤ copied blocks + 1 ∧ copied blocks ≤ r.length - r.bytesRead ∧
      (outcome = .ok () → copied blocks = r.length - r.bytesRead ∧ r'.bytesRead = r.length) := by
  induction copies with
  | unread reading => exact ⟨Nat.le_refl _, Nat.zero_le _, nofun⟩
  | flushed reading empty flushing =>
    obtain ⟨before, after⟩ := read_empty begun reading empty
    exact ⟨Nat.le_refl _, Nat.zero_le _, fun _ => ⟨by rw [before, Nat.sub_self]; rfl, after⟩⟩
  | unflushed reading empty flushing => exact ⟨Nat.le_refl _, Nat.zero_le _, nofun⟩
  | unwritten reading filled writing => exact ⟨Nat.le_refl _, Nat.zero_le _, nofun⟩
  | block reading filled writing _ ih =>
    obtain ⟨length, begun₁, fewer⟩ := read_fewer begun reading
    obtain ⟨many, most, all⟩ := ih begun₁
    rw [copied]
    refine ⟨by omega, by omega, fun ended => ?_⟩
    obtain ⟨every, last⟩ := all ended
    exact ⟨by omega, last.trans length⟩

theorem copyTo_trace_iff {result : Except TransferError Nat} (begun : r.bytesRead ≤ r.length) :
    (copyTo sink r s).Trace t (result, r', s') ↔ ∃ reads blocks outcome,
      Copies sink r s reads blocks t outcome r' s' ∧ result = outcome.map fun _ => copied blocks := by
  constructor
  · intro run
    obtain ⟨reads, blocks, outcome, copies, rfl⟩ := copyLoop_copies begun (Nat.lt_succ_self _) run
    exact ⟨reads, blocks, outcome, copies, by rw [Nat.zero_add]⟩
  · rintro ⟨reads, blocks, outcome, copies, rfl⟩
    have run : (copyTo sink r s).Trace t (outcome.map fun _ => 0 + copied blocks, r', s') :=
      copies.copyLoop begun (Nat.le_refl _)
    rwa [Nat.zero_add] at run

/-- Whatever a source answers, and whatever has been read before, a reader keeps to its bounds. Chunks
are cut within theirs, and the count of bytes is that of those given out. The next read is safe, and it
is short just when the next part comes out empty and then the first part of the range does. A copy of the
rest ends after no more reads than one for each byte to come and a last one: with all these bytes copied,
or with an error of a read or of the sink. -/
theorem safe_with_any_source (location : String) {start stop : Nat} (ordered : start ≤ stop)
    (length size : Nat) (policy : RetryPolicy) (progress : Option (Nat × Summary)) (rooms : List Nat) :
    let new := opened location start stop length size policy progress
    (∀ (parts : Parts) chunk, slice? chunk (parts.cuts chunk.size).1 (parts.cuts chunk.size).2 =
      some (parts.trim chunk)) ∧
    ∀ t results r, (readEach rooms new).Trace t (results, r) →
      (r.location = location ∧ r.start = start ∧ r.stop = stop ∧ r.length = length ∧
        r.chunkSize = max size 1 ∧ r.policy = policy) ∧
      r.bytesRead = (given results).length ∧ r.bytesRead ≤ length ∧
      (∀ room t result r', (r.read room).Trace t (result, r') → Safe r room t result r' ∧
        ∀ expected actual, result = .error (.shortRead expected actual) ↔
          expected = length ∧ actual = r.bytesRead ∧ r.Dry room t) ∧
      ∀ (σ : Type) (sink : Sink σ) (s : σ),
        (∀ t result r' s', (copyTo sink r s).Trace t (result, r', s') ↔ ∃ reads blocks outcome,
          Copies sink r s reads blocks t outcome r' s' ∧ result = outcome.map fun _ => copied blocks) ∧
        (∀ reads blocks t outcome r' s', Copies sink r s reads blocks t outcome r' s' →
          reads ≤ length - r.bytesRead + 1 ∧ copied blocks ≤ length - r.bytesRead ∧
          (outcome = .ok () → copied blocks = length - r.bytesRead ∧ r'.bytesRead = length)) ∧
        ∀ (ω : Type) (world : Answering ω), (∀ w q, ∃ reply w', world w q reply w') →
          ∀ w, (∀ room, ∃ t result r' w', (r.read room).Trace t (result, r') ∧ world.Follows w t w') ∧
            ∃ reads blocks t outcome r' s' w',
              Copies sink r s reads blocks t outcome r' s' ∧ world.Follows w t w' := by
  intro new
  refine ⟨Parts.slice?_cuts, fun t results r run => ?_⟩
  have fields : (new.location = location ∧ new.start = start ∧ new.stop = stop ∧ new.length = length ∧
      new.chunkSize = max size 1 ∧ new.policy = policy) ∧ new.bytesRead = 0 := by
    cases progress <;> exact ⟨⟨rfl, rfl, rfl, rfl, rfl, rfl⟩, rfl⟩
  obtain ⟨⟨place, begins, stops, expects, chunks, tries⟩, unread⟩ := fields
  obtain ⟨continues, kept, read, within⟩ := readEach_safe (by rw [unread]; exact Nat.zero_le _) run
  rw [unread, Nat.zero_add] at read
  have same : r.length = length := continues.length.trans expects
  have begun : r.bytesRead ≤ r.length := by rw [continues.length]; exact within
  have chunk : r.chunkSize = max size 1 := continues.chunkSize.trans chunks
  have first : r.start = start := continues.start.trans begins
  have last : r.stop = stop := continues.stop.trans stops
  refine ⟨⟨continues.location.trans place, first, last, same, chunk, kept.trans tries⟩, read,
    same ▸ begun, fun room t result r' run => ⟨read_safe begun run, ?_⟩,
    fun σ sink s => ⟨fun _ _ _ _ => copyTo_trace_iff begun, ?_, ?_⟩⟩
  · rw [← same]
    exact read_short_iff (chunk ▸ Nat.le_max_right ..) (by rwa [first, last]) run
  · intro reads blocks t outcome r' s' copies
    obtain ⟨many, most, all⟩ := copies.within begun
    rw [same] at most all
    exact ⟨by omega, most, all⟩
  · intro ω world total w
    constructor
    · intro room
      obtain ⟨t, ⟨result, r'⟩, w', ran, follows⟩ := Job.exists_trace total (r.read room) w
      exact ⟨t, result, r', w', ran, follows⟩
    · obtain ⟨t, ⟨result, r', s'⟩, w', ran, follows⟩ := Job.exists_trace total (copyTo sink r s) w
      obtain ⟨reads, blocks, outcome, copies, -⟩ := (copyTo_trace_iff begun).mp ran
      exact ⟨reads, blocks, t, outcome, r', s', w', copies, follows⟩

/-- Two bytes of a chunk are no bytes of a range that begins behind them, neither the first time nor when
the range is begun anew. -/
theorem safe_with_any_source_of_two_bytes :
    let new := opened "doc" 2 5 4 4 .none none
    let early : List Exchange :=
      [⟨.canceled, false⟩, ⟨.fetchChunk "doc" 0 4, some (.ok ⟨#[1, 2]⟩)⟩]
    2 ≤ 5 ∧ ∃ r', (new.read 1).Trace (early ++ early) (.error (.shortRead 4 0), r') ∧
      r'.bytesRead = 0 := by
  intro new early
  have begun : (readEach [] new).Trace [] ([], new) := .done _
  obtain ⟨-, -, -, reads, -⟩ :=
    (safe_with_any_source "doc" (by decide : 2 ≤ 5) 4 4 .none none []).2 [] [] new begun
  have requested : (new.requestChunk 0).Trace early (.ok ⟨#[1, 2]⟩) :=
    .ask (r := .canceled) false (.ask (r := .fetchChunk "doc" 0 4) (some (.ok ⟨#[1, 2]⟩)) (.done _))
  have dry : new.Dry 1 (early ++ early) :=
    ⟨by decide, by decide, by decide, early, early, rfl,
      .inr ⟨by decide, _, requested, by decide⟩, _, requested, by decide⟩
  obtain ⟨r', run⟩ := dry.trace (by decide) (by decide)
  obtain ⟨safe, short⟩ := reads 1 _ _ r' run
  obtain ⟨-, read, -⟩ := (short 4 0).mp rfl
  exact ⟨by decide, r', run, (safe.fails _ rfl).1.trans read.symm⟩

end Courier.Reader
