import Courier.Proofs.Transfer.Cadence
import Courier.Transfer.Words
import Mathlib.Algebra.Order.Floor.Div

/-! Where words are wide enough for a reader. The chunks of a file are counted by rounding up before
dividing, and a report is looked for at the next full interval even if the file ends before it: both
sums may be more than a word holds although the size itself is less. Where they are not, the reader in
words is the reader. -/
namespace Courier

theorem Job.bind_congr {α β : Type} {job : Job α} {f g : α → Job β}
    (same : ∀ t a, job.Trace t a → f a = g a) : job.bind f = job.bind g := by
  induction job with
  | done a => exact same [] a (.done a)
  | ask r next ih =>
    have later (reply : r.Reply) : (next reply).bind f = (next reply).bind g :=
      ih reply fun t a run => same _ a (.ask reply run)
    simp only [ask_bind, later]

namespace Overflow

variable {overflow : Overflow} {a b : Nat}

theorem add_eq (fits : a + b < wordLimit) : overflow.add a b = some (a + b) := if_pos fits

theorem sub_eq (ordered : b ≤ a) : overflow.sub a b = some (a - b) := if_pos ordered

theorem add_stops_iff : stops.add a b = none ↔ wordLimit ≤ a + b := by
  rw [← Nat.not_lt, add]
  split <;> simp_all

end Overflow

namespace Parts

variable {start stop size taken : Nat}

theorem advance_after (start stop size taken : Nat) :
    (after start stop size taken).advance size = after start stop size (taken + 1) := by
  simp only [advance, after, Nat.succ_mul, Nat.add_assoc]

theorem count_whole {length : Nat} (filled : 0 < length) (size : Nat) :
    (cover 0 (length - 1) size).count = length ⌈/⌉ size := by
  have rounded : length - 1 - (0 - 0 % size) + size = length + size - 1 := by omega
  rw [Nat.ceilDiv_eq_add_pred_div, ← rounded]
  rfl

end Parts

namespace Words

open Reader (Aligned Telling opened)

variable {overflow : Overflow} {start stop size taken : Nat}

section Arithmetic

theorem cover_eq (positive : 0 < size) (ordered : start ≤ stop)
    (fits : stop - (start - start % size) + size < wordLimit) :
    cover overflow start stop size = some (Parts.cover start stop size) := by
  have low : start % size ≤ start := Nat.mod_le ..
  have base : start - start % size ≤ start := Nat.sub_le ..
  have last : stop % size + 1 < wordLimit := by
    have := Nat.mod_lt stop positive
    omega
  simp only [cover, Overflow.sub_eq low, Overflow.sub_eq base, Overflow.add_eq last,
    Overflow.sub_eq (base.trans ordered), Overflow.add_eq fits, Option.bind_eq_bind, Option.bind_some]
  rfl

theorem cover_stops (ordered : start ≤ stop)
    (wide : wordLimit ≤ stop - (start - start % size) + size) : cover .stops start stop size = none := by
  have low : start % size ≤ start := Nat.mod_le ..
  have base : start - start % size ≤ start := Nat.sub_le ..
  simp only [cover, Overflow.sub_eq low, Overflow.sub_eq base, Overflow.sub_eq (base.trans ordered),
    Overflow.add_stops_iff.mpr wide, Option.bind_eq_bind, Option.bind_some, Option.bind_none,
    Option.bind_fun_none]

theorem whole_eq {file : RemoteFile} (filled : 0 < file.size) (positive : 0 < size)
    (fits : file.size + max size chunkSize ≤ wordLimit) :
    whole overflow file size = some (Reader.whole file size) := by
  have usual : file.size - 1 - (0 - 0 % chunkSize) + chunkSize < wordLimit := by omega
  have own : file.size - 1 - (0 - 0 % max size 1) + max size 1 < wordLimit := by omega
  simp only [whole, range, cover_eq (by decide) (Nat.zero_le _) usual,
    cover_eq (Nat.le_max_right ..) (Nat.zero_le _) own, Option.bind_eq_bind, Option.bind_some]
  rfl

theorem whole_stops_iff {file : RemoteFile} (filled : 0 < file.size) (positive : 0 < size) :
    whole .stops file size = none ↔ wordLimit < file.size + max size chunkSize := by
  constructor
  · intro stopped
    refine Nat.lt_of_not_le fun fits => ?_
    exact absurd (stopped.symm.trans (whole_eq filled positive fits)) nofun
  · intro wide
    by_cases usual : wordLimit < file.size + chunkSize
    · have stopped : cover .stops 0 (file.size - 1) chunkSize = none :=
        cover_stops (Nat.zero_le _) (by omega)
      simp only [whole, range, stopped, Option.bind_eq_bind, Option.bind_none]
    · have stopped : cover .stops 0 (file.size - 1) (max size 1) = none :=
        cover_stops (Nat.zero_le _) (by omega)
      simp only [whole, range, stopped, Option.bind_eq_bind, Option.bind_none, Option.bind_fun_none]

theorem take_after (more : taken < (Parts.cover start stop size).count) (positive : 0 < size)
    (ordered : start ≤ stop) (fits : stop + max size chunkSize < wordLimit) (chunk : Bytes) :
    ∃ part, ∃ taken' ≤ (Parts.cover start stop size).count,
      (Parts.after start stop size taken).take chunk size = (part, .after start stop size taken') ∧
      take overflow (.after start stop size taken) chunk size =
        some (part, .after start stop size taken') := by
  obtain ⟨full, count, last, some_kept, -⟩ := Parts.count_cover positive ordered
  have offset : start - start % size + taken * size ≤ stop := by
    have := Nat.mul_le_mul_right size (show taken ≤ full by omega)
    omega
  have number : taken ≤ stop := by
    have := Nat.le_mul_of_pos_right taken positive
    omega
  unfold take Parts.take
  by_cases empty : chunk.size = 0
  · rw [if_pos empty, if_pos empty]
    exact ⟨_, taken, Nat.le_of_lt more, rfl, rfl⟩
  · have usual : 1 < chunkSize := by decide
    have next : (Parts.after start stop size taken).current + 1 < wordLimit := by
      show taken + 1 + 1 < wordLimit
      omega
    have place : (Parts.after start stop size taken).offset + size < wordLimit := by
      show start - start % size + taken * size + size < wordLimit
      omega
    have later := Parts.advance_after start stop size taken
    -- The next part may begin up to a chunk beyond the range.
    rw [if_neg empty, if_neg empty, advance, Overflow.add_eq next, Overflow.add_eq place]
    exact ⟨_, taken + 1, more, congrArg _ later, congrArg (fun parts => some (_, parts)) later⟩

variable {throttle : Throttle} {read : Nat}

theorem untilNext_eq (fits : throttle.lastReported + throttle.interval < wordLimit) :
    untilNext overflow throttle read = some (throttle.untilNext read) := by
  rw [untilNext, Overflow.add_eq fits]
  rfl

theorem untilNext_stops_iff : untilNext .stops throttle read = none ↔
    wordLimit ≤ throttle.lastReported + throttle.interval := by
  constructor
  · intro stopped
    refine Nat.le_of_not_lt fun fits => ?_
    exact absurd (stopped.symm.trans (untilNext_eq fits)) nofun
  · intro wide
    rw [untilNext, Overflow.add_stops_iff.mpr wide]
    rfl

theorem next_boundary (keeps : throttle.Keeps read) (more : read < throttle.total) :
    throttle.lastReported + throttle.interval = (read / throttle.interval + 1) * throttle.interval := by
  rw [keeps.last, if_neg (Nat.ne_of_lt more), Nat.succ_mul]

theorem next_boundary_le (keeps : throttle.Keeps read) (more : read < throttle.total) :
    throttle.lastReported + throttle.interval ≤
      throttle.total ⌈/⌉ throttle.interval * throttle.interval := by
  have begun : read / throttle.interval < throttle.total ⌈/⌉ throttle.interval := by
    refine Nat.lt_of_not_le fun ended => ?_
    have below := (ceilDiv_le_iff_le_mul keeps.positive).mp ended
    have := Nat.mul_div_le read throttle.interval
    omega
  rw [next_boundary keeps more]
  exact Nat.mul_le_mul_right _ begun

end Arithmetic

section Exact

variable {α β : Type} {words : Work α} {job : Job α} {good : α → Prop} {good' : β → Prop}

/-- Work in words that is a job as it is, and that always ends well. -/
structure Exact (words : Work α) (job : Job α) (good : α → Prop) : Prop where
  same : words = OptionT.lift job
  ends : ∀ t a, job.Trace t a → good a

theorem Exact.pure {a : α} (fine : good a) : Exact (pure a) (.done a) good := by
  refine ⟨rfl, fun t b run => ?_⟩
  rw [(Job.trace_done.mp run).2]
  exact fine

theorem Exact.lift (job : Job α) : Exact (liftM job) job fun _ => True :=
  ⟨rfl, fun _ _ _ => trivial⟩

theorem Exact.bind {next : α → Work β} {f : α → Job β} (first : Exact words job good)
    (rest : ∀ t a, job.Trace t a → good a → Exact (next a) (f a) good') :
    Exact (words >>= next) (job.bind f) good' := by
  constructor
  · have later : job.bind (fun a => (next a).run) = job.bind fun a => (OptionT.lift (f a)).run :=
      Job.bind_congr fun t a run => congrArg OptionT.run (rest t a run (first.ends t a run)).same
    rw [first.same]
    show (job.bind fun a => .done (some a)).bind _ = (job.bind f).bind _
    rw [Job.bind_assoc, Job.bind_assoc]
    exact later
  · intro t b run
    obtain ⟨a, t₁, t₂, -, before, after⟩ := Job.trace_bind.mp run
    exact (rest t₁ a before (first.ends t₁ a before)).ends t₂ b after

theorem Exact.of_some {a : α} {x : Option α} {next : α → Work β} {job : Job β} (given : x = some a)
    (rest : Exact (next a) job good') : Exact (x.getM >>= next) job good' := by
  rw [given]
  exact ⟨rest.same, rest.ends⟩

end Exact

section Reader

variable {r : Reader} {room : Nat}

/-- A reader for which words are wide enough, in whatever it may still do. -/
structure Sized (r : Reader) : Prop where
  taken : ∃ taken, r.Aligned taken
  stop : r.stop + max r.chunkSize chunkSize < wordLimit
  length : r.length < wordLimit
  begun : r.bytesRead ≤ r.length
  progress : r.progress = none ∨ ∃ interval summary, r.Telling interval summary ∧
    r.length ⌈/⌉ interval * interval < wordLimit

theorem Sized.moved {parts : Parts} {buffer : Bytes} {cursor : Nat} (sized : Sized r)
    (aligned : ∃ taken, Reader.Aligned { r with parts, buffer, cursor } taken) :
    Sized { r with parts, buffer, cursor } := by
  refine ⟨aligned, sized.stop, sized.length, sized.begun, sized.progress.imp_right ?_⟩
  rintro ⟨interval, summary, telling, fits⟩
  exact ⟨interval, summary, ⟨telling.begun, telling.installed⟩, fits⟩

theorem Sized.refilled (sized : Sized r) (buffer : Bytes) (cursor : Nat) :
    Sized { r with buffer, cursor } := by
  obtain ⟨taken, positive, ordered, within, parts⟩ := sized.taken
  exact sized.moved ⟨taken, positive, ordered, within, parts⟩

theorem Sized.placed {taken : Nat} (sized : Sized r)
    (within : taken ≤ (Parts.cover r.start r.stop r.chunkSize).count) :
    Sized { r with parts := .after r.start r.stop r.chunkSize taken } := by
  obtain ⟨-, positive, ordered, -, -⟩ := sized.taken
  exact sized.moved ⟨taken, positive, ordered, within, rfl⟩

theorem restart_eq (sized : Sized r) : restart overflow r = some r.restart := by
  obtain ⟨taken, positive, ordered, -, -⟩ := sized.taken
  have fits := sized.stop
  rw [restart, cover_eq positive ordered (by omega)]
  rfl

theorem Sized.restart (sized : Sized r) : Sized r.restart := by
  rw [Reader.restart, Parts.cover_eq_after]
  exact sized.placed (Nat.zero_le _)

theorem fetchNext_exact (sized : Sized r) :
    Exact (fetchNext overflow r) r.fetchNext fun x => Sized x.2 := by
  obtain ⟨taken, positive, ordered, within, parts⟩ := sized.taken
  unfold fetchNext Reader.fetchNext
  rw [parts, Parts.pending?_after]
  by_cases more : taken < (Parts.cover r.start r.stop r.chunkSize).count
  · rw [if_pos more]
    refine (Exact.lift _).bind fun t outcome run _ => ?_
    cases outcome with
    | error e => exact .pure sized
    | ok chunk =>
      obtain ⟨part, taken', within', took, same⟩ := take_after more positive ordered sized.stop chunk
      dsimp only
      rw [took]
      exact .of_some same (.pure (sized.placed within'))
  · rw [if_neg more]
    exact .pure sized

theorem refillAnew_exact (sized : Sized r) :
    Exact (refillAnew overflow r) r.refillAnew fun x => Sized x.2 := by
  unfold refillAnew Reader.refillAnew
  refine .of_some (restart_eq sized) ?_
  refine (fetchNext_exact sized.restart).bind fun t fetched run sized => ?_
  obtain ⟨outcome, r₁⟩ := fetched
  cases outcome with
  | error e => exact .pure sized
  | ok part =>
    by_cases filled : part.size ≠ 0
    · simp only [if_pos filled]
      exact .pure (sized.refilled part 0)
    · simp only [if_neg filled]
      exact .pure (sized.refilled part r₁.cursor)

theorem refill_exact (sized : Sized r) :
    Exact (refill overflow r) r.refill fun x => Sized x.2 := by
  unfold refill Reader.refill
  refine (fetchNext_exact sized).bind fun t fetched run sized => ?_
  obtain ⟨outcome, r₁⟩ := fetched
  cases outcome with
  | error e => exact .pure sized
  | ok part =>
    by_cases filled : part.size ≠ 0
    · simp only [if_pos filled]
      exact .pure (sized.refilled part 0)
    · simp only [if_neg filled]
      exact refillAnew_exact (sized.refilled part r₁.cursor)

theorem portion_eq (sized : Sized r) (more : r.bytesRead < r.length) :
    portion overflow r room = some (r.portion room) := by
  unfold portion Reader.portion
  rcases sized.progress with nothing | ⟨interval, summary, telling, fits⟩
  · rw [nothing]
    rfl
  · obtain ⟨throttle, installed, keeps, rfl, total⟩ := telling.installed
    have before : r.bytesRead < throttle.total := total ▸ more
    have below := next_boundary_le keeps before
    rw [total] at below
    rw [installed]
    simp only [untilNext_eq (Nat.lt_of_le_of_lt below fits), Option.bind_eq_bind, Option.bind_some]
    rfl

theorem consume_exact (sized : Sized r) (more : r.bytesRead < r.length) (unread : r.cursor < r.buffer.size)
    (roomy : 0 < room) : Exact (consume overflow r room) (r.consume room) fun x => Sized x.2 := by
  obtain ⟨-, -, wanted⟩ := r.portion_le room
  have moving : 0 < r.portion room := Reader.portion_pos (Nat.sub_pos_of_lt unread) roomy more
  have below : r.bytesRead + r.portion room ≤ r.length := by omega
  have given : overflow.add r.bytesRead (r.portion room) = some (r.bytesRead + r.portion room) :=
    Overflow.add_eq (Nat.lt_of_le_of_lt below sized.length)
  unfold consume Reader.consume
  refine .of_some (portion_eq sized more) (.of_some given ?_)
  refine (Exact.lift (r.handOut room).report).bind fun t r' run _ => .pure ?_
  -- Nothing but the count and the throttle has changed, and the throttle is where it should be.
  obtain ⟨taken, positive, ordered, within, parts⟩ := sized.taken
  rcases sized.progress with nothing | ⟨interval, summary, telling, fits⟩
  · rcases Reader.report_cases run with ⟨-, -, rfl⟩ | ⟨_, _, installed, -⟩
    · exact ⟨⟨taken, positive, ordered, within, parts⟩, sized.stop, sized.length, below, .inl nothing⟩
    · exact absurd (nothing.symm.trans installed) nofun
  · have tells := Reader.handOut_tells telling more moving wanted run
    obtain ⟨⟨progress, rfl⟩, -⟩ := Reader.report_tells run
    exact ⟨⟨taken, positive, ordered, within, parts⟩, sized.stop, sized.length, below,
      .inr ⟨interval, summary, tells.telling, fits⟩⟩

/-- A read in words is the read itself, and words are wide enough for the next one as well. -/
theorem read_exact (sized : Sized r) (room : Nat) :
    Exact (read overflow r room) (r.read room) fun x => Sized x.2 := by
  unfold read Reader.read
  by_cases idle : r.bytesRead ≥ r.length ∨ room = 0
  · rw [if_pos idle, if_pos idle]
    exact .pure sized
  rw [if_neg idle, if_neg idle]
  rw [not_or] at idle
  have more : r.bytesRead < r.length := Nat.lt_of_not_le idle.1
  have roomy : 0 < room := Nat.pos_of_ne_zero idle.2
  by_cases unread : r.cursor < r.buffer.size
  · rw [if_pos unread, if_pos unread]
    exact consume_exact sized more unread roomy
  · rw [if_neg unread, if_neg unread]
    refine (refill_exact sized).bind fun t filled run sized => ?_
    obtain ⟨outcome, r₁⟩ := filled
    cases outcome with
    | error e => exact .pure sized
    | ok _ =>
      -- Filling the buffer reads nothing, so that there is as much to come as before.
      have filling := Reader.refill_fills run
      obtain ⟨parts, buffer, cursor, rfl⟩ := filling.kept
      exact consume_exact sized more (filling.filled rfl) roomy

def readEach (overflow : Overflow) : List Nat → Reader → Work (List (Except TransferError Bytes) × Reader)
  | [], r => return ([], r)
  | room :: rooms, r => do
    let (result, r) ← read overflow r room
    let (results, r) ← readEach overflow rooms r
    return (result :: results, r)

theorem readEach_exact (sized : Sized r) (rooms : List Nat) :
    Exact (readEach overflow rooms r) (Reader.readEach rooms r) fun x => Sized x.2 := by
  induction rooms generalizing r with
  | nil => exact .pure sized
  | cons room rooms ih =>
    unfold readEach Reader.readEach
    refine (read_exact sized room).bind fun t first run sized => ?_
    exact (ih sized).bind fun t others run sized => .pure sized

variable {σ : Type} {sink : Reader.Sink σ}

theorem copyLoop_exact {s : σ} {written : Nat} (sized : Sized r)
    (room : written + (r.length - r.bytesRead) < wordLimit) (reads : Nat) :
    Exact (copyLoop overflow sink r s written reads) (r.copyLoop sink s written reads)
      fun x => Sized x.2.1 := by
  -- What has been written and what is still to come make up the same count after every block.
  induction reads generalizing r s written with
  | zero => exact .pure sized
  | succ reads ih =>
    unfold copyLoop Reader.copyLoop
    refine (read_exact sized Reader.copyRoom).bind fun t next run sized' => ?_
    obtain ⟨outcome, r₁⟩ := next
    cases outcome with
    | error e => exact .pure sized'
    | ok out =>
      obtain ⟨length, begun, fewer⟩ := Reader.read_fewer sized.begun run
      by_cases empty : out.size = 0
      · simp only [if_pos empty]
        refine (Exact.lift _).bind fun t flushed run _ => ?_
        obtain ⟨_ | _, s'⟩ := flushed <;> exact .pure sized'
      · simp only [if_neg empty]
        refine (Exact.lift _).bind fun t wrote run _ => ?_
        obtain ⟨_ | _, s'⟩ := wrote
        · exact .pure sized'
        · exact .of_some (Overflow.add_eq (by omega)) (ih sized' (by omega))

theorem copyTo_exact (sized : Sized r) (sink : Reader.Sink σ) (s : σ) :
    Exact (copyTo overflow sink r s) (r.copyTo sink s) fun x => Sized x.2.1 := by
  have length := sized.length
  exact copyLoop_exact sized (by omega) _

theorem opened_sized {length : Nat} (location : String) (policy : RetryPolicy)
    (progress : Option (Nat × Summary)) (ordered : start ≤ stop) (positive : 0 < size)
    (fits : stop + max size chunkSize < wordLimit) (short : length < wordLimit)
    (boundary : ∀ interval summary, progress = some (interval, summary) →
      length ⌈/⌉ max interval 1 * max interval 1 < wordLimit) :
    Sized (opened location start stop length size policy progress) := by
  obtain ⟨⟨-, starts, stops, expects, chunks, -⟩, parts, -, unread⟩ :=
    Reader.opened_fields location start stop length policy progress positive
  have reporting : (opened location start stop length size policy progress).progress = none ∨
      ∃ interval summary, Telling interval summary
        (opened location start stop length size policy progress) ∧
        length ⌈/⌉ interval * interval < wordLimit := by
    rcases progress with _ | ⟨interval, summary⟩
    · exact .inl rfl
    · exact .inr ⟨_, summary, Reader.telling_new .., boundary interval summary rfl⟩
  generalize opened location start stop length size policy progress = new at *
  subst starts stops expects chunks
  refine ⟨⟨0, positive, ordered, Nat.zero_le _, ?_⟩, fits, short, unread ▸ Nat.zero_le _, reporting⟩
  rw [parts, Parts.cover_eq_after]

/-- Where the sums that come up in a range are words, its reads and copies in words are those of the
reader. -/
theorem reads_in_words {length : Nat} (location : String) (policy : RetryPolicy)
    (progress : Option (Nat × Summary)) (ordered : start ≤ stop) (positive : 0 < size)
    (fits : stop + max size chunkSize < wordLimit) (short : length < wordLimit)
    (boundary : ∀ interval summary, progress = some (interval, summary) →
      length ⌈/⌉ max interval 1 * max interval 1 < wordLimit) (overflow : Overflow) (rooms : List Nat) :
    let new := opened location start stop length size policy progress
    readEach overflow rooms new = liftM (Reader.readEach rooms new) ∧
      ∀ t results r, (Reader.readEach rooms new).Trace t (results, r) →
        ∀ (σ : Type) (sink : Reader.Sink σ) s, copyTo overflow sink r s = liftM (r.copyTo sink s) := by
  intro new
  have sized : Sized new := opened_sized location policy progress ordered positive fits short boundary
  have reading : Exact (readEach overflow rooms new) _ _ := readEach_exact sized rooms
  refine ⟨reading.same, fun t results r run σ sink s => ?_⟩
  exact (copyTo_exact (reading.ends t _ run) sink s).same

end Reader

/-- An unchecked build finds no part in a range that is too long for words. -/
theorem cover_wraps {length : Nat} (short : length < wordLimit) (small : size < wordLimit)
    (positive : 0 < size) (wide : wordLimit < length + size) :
    cover .wraps 0 (length - 1) size = some { Parts.cover 0 (length - 1) size with count := 0 } := by
  have last : (length - 1) % size + 1 < wordLimit := by
    have := Nat.mod_lt (length - 1) positive
    omega
  have beyond : ¬ length - 1 + size < wordLimit := by omega
  have none_left : (length - 1 + size - wordLimit) / size = 0 := Nat.div_eq_of_lt (by omega)
  simp only [cover, Parts.cover, Nat.zero_mod, Nat.sub_zero, Overflow.sub_eq (Nat.zero_le _),
    Overflow.add, if_pos last, if_neg beyond, none_left, Option.bind_eq_bind, Option.bind_some,
    Option.pure_def]

/-- The usual reports of a file are looked for at most a hundredth beyond its end. -/
theorem boundary_progressInterval_le (length : Nat) :
    length ⌈/⌉ progressInterval length * progressInterval length ≤ length + length / 100 := by
  have most : progressInterval length ≤ length / 100 + 1 := by
    unfold progressInterval
    omega
  calc length ⌈/⌉ progressInterval length * progressInterval length
      = (length + progressInterval length - 1) / progressInterval length * progressInterval length := by
        rw [Nat.ceilDiv_eq_add_pred_div]
    _ ≤ length + progressInterval length - 1 := Nat.div_mul_le_self ..
    _ ≤ length + length / 100 := by omega

/-- A checked build opens a file exactly if its size plus that of a chunk, the usual one or its own, is
within `wordLimit`; beyond it an unchecked build counts no parts. Within it the parts are counted rightly,
and the one sum that may still be too large is the next full interval of the reports. Where this fits
until the end as well, all reads and copies in words are those of the reader. -/
theorem wide_enough_for_file (file : RemoteFile) (size : Nat) (policy : RetryPolicy)
    (progress : Option (Nat × Summary)) (filled : 0 < file.size) (short : file.size < wordLimit)
    (positive : 0 < size) (small : size < wordLimit) :
    let new := opened file.location 0 (file.size - 1) file.size size policy progress
    (whole .stops file size = none ↔ wordLimit < file.size + max size chunkSize) ∧
    (wordLimit < file.size + size → cover .wraps 0 (file.size - 1) size =
      some { Parts.cover 0 (file.size - 1) size with count := 0 }) ∧
    (file.size + max size chunkSize ≤ wordLimit →
      (∀ overflow, whole overflow file size = some (Reader.whole file size)) ∧
      (Reader.whole file size).parts.count = file.size ⌈/⌉ size ∧
      (∀ interval summary, progress = some (interval, summary) →
        ∀ rooms t results r, (Reader.readEach rooms new).Trace t (results, r) →
        ∃ throttle, r.progress = some (throttle, summary) ∧ (r.bytesRead < file.size →
          (untilNext .stops throttle r.bytesRead = none ↔
            wordLimit ≤ (r.bytesRead / max interval 1 + 1) * max interval 1))) ∧
      ((∀ interval summary, progress = some (interval, summary) →
          file.size ⌈/⌉ max interval 1 * max interval 1 < wordLimit) →
        ∀ overflow rooms, readEach overflow rooms new = liftM (Reader.readEach rooms new) ∧
          ∀ t results r, (Reader.readEach rooms new).Trace t (results, r) →
          ∀ (σ : Type) (sink : Reader.Sink σ) s, copyTo overflow sink r s = liftM (r.copyTo sink s))) := by
  intro new
  refine ⟨whole_stops_iff filled positive, cover_wraps short small positive, fun fits => ?_⟩
  refine ⟨fun overflow => whole_eq filled positive fits, ?_, ?_, ?_⟩
  · rw [← Parts.count_whole filled size]
    exact congrArg (fun size => (Parts.cover 0 (file.size - 1) size).count) (Nat.max_eq_left positive)
  · rintro interval summary rfl rooms t results r run
    obtain ⟨telling, length, -⟩ := Reader.readEach_tells (Reader.telling_new ..) run
    obtain ⟨throttle, installed, keeps, intervals, total⟩ := telling.installed
    have expects : throttle.total = file.size := total.trans length
    refine ⟨throttle, installed, fun more => ?_⟩
    rw [untilNext_stops_iff, next_boundary keeps (expects ▸ more), intervals]
  · exact fun boundary => reads_in_words file.location policy progress (Nat.zero_le _) positive
      (by omega) short boundary

/-- A file of half the size that words can count is read in words, even in a single chunk as large. -/
theorem wide_enough_for_half :
    let file : RemoteFile := ⟨"doc", 2 ^ 63, ""⟩
    let summary : Summary := ⟨1, ⟨"1:1"⟩, "doc", "disk", "doc"⟩
    let new := opened "doc" 0 (2 ^ 63 - 1) (2 ^ 63) (2 ^ 63) .standard
      (some (progressInterval (2 ^ 63), summary))
    whole .stops file (2 ^ 63) = some (Reader.whole file (2 ^ 63)) ∧
      ∀ rooms, readEach .stops rooms new = liftM (Reader.readEach rooms new) := by
  intro file summary new
  have boundary : ∀ interval summary', some (progressInterval (2 ^ 63), summary) = some (interval, summary') →
      file.size ⌈/⌉ max interval 1 * max interval 1 < wordLimit := by
    rintro _ _ ⟨⟩
    have least : 1 ≤ progressInterval (2 ^ 63) := Nat.le_max_right ..
    rw [Nat.max_eq_left least]
    exact Nat.lt_of_le_of_lt (boundary_progressInterval_le (2 ^ 63)) (by decide)
  obtain ⟨-, -, fitting⟩ := wide_enough_for_file file (2 ^ 63) .standard
    (some (progressInterval (2 ^ 63), summary)) (by decide) (by decide) (by decide) (by decide)
  obtain ⟨opens, -, -, reads⟩ := fitting (by decide)
  exact ⟨opens .stops, fun rooms => (reads boundary .stops rooms).1⟩

/-- In the longest files the parts cannot be counted: a checked build stops, and an unchecked one finds
none of the parts that there are. -/
theorem too_narrow_for_longest_file :
    let file : RemoteFile := ⟨"doc", 2 ^ 64 - 1, ""⟩
    whole .stops file chunkSize = none ∧
      (whole .wraps file chunkSize).map (fun r => r.parts.count) = some 0 ∧
      (Reader.whole file chunkSize).parts.count = 2 ^ 44 := by
  refine ⟨?_, ?_, ?_⟩
  · exact (whole_stops_iff (by decide) (by decide)).mpr (by decide)
  · rfl
  · rfl

end Words

end Courier
