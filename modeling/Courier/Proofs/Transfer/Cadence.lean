import Courier.Proofs.Transfer.Completion

/-! When progress is reported. Every read stops at the next count that is to be reported, so that the
reports are the full intervals and the last byte, however the bytes come in and wherever they go. -/
namespace Courier

namespace Throttle

/-- The counts to be reported up to a count: the full intervals, and the total at its end. -/
def reports (interval total read : Nat) : List Nat :=
  (List.range (read / interval)).map (fun k => (k + 1) * interval) ++
    if read = total ∧ ¬ interval ∣ total then [total] else []

variable {interval total read n : Nat}

theorem reports_zero (interval total : Nat) : reports interval total 0 = [] := by
  have whole : ¬ (0 = total ∧ ¬ interval ∣ total) := by
    rintro ⟨rfl, odd⟩
    exact odd (Nat.dvd_zero interval)
  rw [reports, if_neg whole, Nat.zero_div]
  rfl

theorem reports_of_lt (more : read < total) :
    reports interval total read = (List.range (read / interval)).map fun k => (k + 1) * interval := by
  rw [reports, if_neg fun ended => Nat.ne_of_lt more ended.1, List.append_nil]

theorem reports_between (later : n < total) (more : read < total) (same : n / interval = read / interval) :
    reports interval total n = reports interval total read := by
  rw [reports_of_lt later, reports_of_lt more, same]

theorem reports_full (positive : 0 < interval) (more : read < total)
    (full : n = (read / interval + 1) * interval) :
    reports interval total n = reports interval total read ++ [n] := by
  have next : n / interval = read / interval + 1 := by rw [full, Nat.mul_div_cancel _ positive]
  have whole : ¬ (n = total ∧ ¬ interval ∣ total) := by
    rintro ⟨rfl, odd⟩
    exact odd ⟨_, full.trans (Nat.mul_comm ..)⟩
  rw [reports, if_neg whole, reports_of_lt more, next, List.range_succ, List.map_append,
    List.map_singleton, ← full, List.append_nil]

theorem reports_total (more : read < total) (short : total < (read / interval + 1) * interval) :
    reports interval total total = reports interval total read ++ [total] := by
  have begun : read / interval * interval < total := Nat.lt_of_le_of_lt (Nat.div_mul_le_self ..) more
  have same : total / interval = read / interval :=
    Nat.div_eq_of_lt_le (Nat.le_of_lt begun) short
  have odd : ¬ interval ∣ total := by
    rw [Nat.mul_comm] at begun short
    exact Nat.not_dvd_of_lt_of_lt_mul_succ begun short
  rw [reports, if_pos ⟨rfl, odd⟩, reports_of_lt more, same]

theorem reports_increase (positive : 0 < interval) (begun : read ≤ total) :
    (reports interval total read).Pairwise (· < ·) := by
  rw [reports, List.pairwise_append, List.pairwise_map]
  refine ⟨?_, ?_, ?_⟩
  · -- Among the full intervals.
    apply List.pairwise_lt_range.imp
    intro k l less
    exact Nat.mul_lt_mul_of_pos_right (Nat.succ_lt_succ less) positive
  · split
    · exact List.pairwise_singleton ..
    · exact List.Pairwise.nil
  · -- The total comes after them, since it is none of them.
    intro k hk l hl
    split at hl
    · next ended =>
      obtain ⟨full, hfull, rfl⟩ := List.mem_map.mp hk
      rw [List.mem_singleton.mp hl]
      have below : (full + 1) * interval ≤ total :=
        calc (full + 1) * interval ≤ read / interval * interval :=
              Nat.mul_le_mul_right _ (List.mem_range.mp hfull)
          _ ≤ read := Nat.div_mul_le_self ..
          _ ≤ total := begun
      apply Nat.lt_of_le_of_ne below
      intro same
      exact ended.2 ⟨_, same.symm.trans (Nat.mul_comm ..)⟩
    · exact absurd hl List.not_mem_nil

theorem mem_reports_total (positive : 0 < interval) (sized : 0 < total) (begun : read ≤ total) :
    total ∈ reports interval total read ↔ read = total := by
  constructor
  · intro told
    rcases List.mem_append.mp told with full | last
    · obtain ⟨k, hk, whole⟩ := List.mem_map.mp full
      apply Nat.le_antisymm begun
      calc total = (k + 1) * interval := whole.symm
        _ ≤ read / interval * interval := Nat.mul_le_mul_right _ (List.mem_range.mp hk)
        _ ≤ read := Nat.div_mul_le_self ..
    · split at last
      · next ended => exact ended.1
      · exact absurd last List.not_mem_nil
  · rintro rfl
    by_cases whole : interval ∣ read
    · obtain ⟨k, rfl⟩ := whole
      have many : 0 < k := Nat.pos_of_mul_pos_left sized
      refine List.mem_append_left _ (List.mem_map.mpr ⟨k - 1, ?_, ?_⟩)
      · rw [List.mem_range, Nat.mul_div_cancel_left _ positive]
        omega
      · rw [Nat.sub_add_cancel many, Nat.mul_comm]
    · refine List.mem_append_right _ ?_
      rw [if_pos ⟨rfl, whole⟩]
      exact List.mem_singleton.mpr rfl

theorem count_reports_total (positive : 0 < interval) (sized : 0 < total) (begun : read ≤ total) :
    (reports interval total read).count total = if read = total then 1 else 0 := by
  have distinct : (reports interval total read).Nodup :=
    (reports_increase positive begun).imp Nat.ne_of_lt
  rw [distinct.count]
  simp only [mem_reports_total positive sized begun]

theorem length_reports (interval total : Nat) : (reports interval total total).length =
    total / interval + if interval ∣ total then 0 else 1 := by
  rw [reports, List.length_append, List.length_map, List.length_range]
  by_cases whole : interval ∣ total
  · rw [if_pos whole, if_neg fun odd => odd.2 whole]
    rfl
  · rw [if_neg whole, if_pos ⟨rfl, whole⟩]
    rfl

theorem length_reports_progressInterval (total : Nat) :
    min total 100 ≤ (reports (progressInterval total) total total).length ∧
      (reports (progressInterval total) total total).length ≤ 199 := by
  rw [length_reports]
  by_cases small : total < 100
  · have every : progressInterval total = 1 := by unfold progressInterval; omega
    rw [every, Nat.div_one, if_pos (Nat.one_dvd total)]
    omega
  · have hundredth : progressInterval total = total / 100 := by unfold progressInterval; omega
    rw [hundredth]
    generalize size : total / 100 = interval
    have positive : 0 < interval := by omega
    have least : 100 ≤ total / interval := (Nat.le_div_iff_mul_le positive).mpr (by omega)
    by_cases one : interval = 1
    · rw [one, Nat.div_one, if_pos (Nat.one_dvd total)]
      omega
    · -- From two bytes on an interval is more than a hundred and fiftieth.
      have most : total / interval < 150 := (Nat.div_lt_iff_lt_mul positive).mpr (by omega)
      split <;> omega

theorem due_iff {t : Throttle} : t.due n = true ↔
    t.lastReported < n ∧ (t.interval ≤ n - t.lastReported ∨ n = t.total) := by
  simp only [due, Bool.and_eq_true, Bool.or_eq_true, decide_eq_true_eq, beq_iff_eq]

/-- A throttle that has reported what is to be reported up to a count. -/
structure Keeps (t : Throttle) (read : Nat) : Prop where
  positive : 0 < t.interval
  last : t.lastReported = if read = t.total then t.total else read / t.interval * t.interval

theorem keeps_new (interval total : Nat) : (new interval total).Keeps 0 := by
  refine ⟨Nat.le_max_right .., ?_⟩
  show 0 = if 0 = total then total else 0 / max interval 1 * max interval 1
  split
  · next empty => exact empty
  · rw [Nat.zero_div, Nat.zero_mul]

variable {t : Throttle}

theorem Keeps.untilNext_pos (keeps : t.Keeps read) (more : read < t.total) : 0 < t.untilNext read := by
  have last := keeps.last
  rw [if_neg (Nat.ne_of_lt more)] at last
  have within : read < read / t.interval * t.interval + t.interval := by
    rw [← Nat.succ_mul]
    exact Nat.lt_mul_of_div_lt (Nat.lt_succ_self _) keeps.positive
  unfold untilNext
  omega

/-- Bytes that do not go beyond the next report are reported as they should be. -/
theorem Keeps.observe (keeps : t.Keeps read) (more : read < t.total) (moving : 0 < n)
    (fits : n ≤ t.untilNext read) :
    (t.observe (read + n)).2.Keeps (read + n) ∧ (t.observe (read + n)).2.interval = t.interval ∧
      (t.observe (read + n)).2.total = t.total ∧
      reports t.interval t.total (read + n) = reports t.interval t.total read ++
        if (t.observe (read + n)).1 then [read + n] else [] := by
  have positive := keeps.positive
  have last : t.lastReported = read / t.interval * t.interval := by
    rw [keeps.last, if_neg (Nat.ne_of_lt more)]
  have floor : read / t.interval * t.interval ≤ read := Nat.div_mul_le_self ..
  have next : (read / t.interval + 1) * t.interval = read / t.interval * t.interval + t.interval :=
    Nat.succ_mul ..
  have bound : read + n ≤ (read / t.interval + 1) * t.interval ∧ read + n ≤ t.total := by
    unfold untilNext at fits
    omega
  by_cases full : read + n = (read / t.interval + 1) * t.interval
  · -- The read ends at a full interval.
    have due : t.due (read + n) = true := due_iff.mpr (by omega)
    have whole : (read + n) / t.interval * t.interval = read + n := by
      rw [full, Nat.mul_div_cancel _ positive]
    rw [Throttle.observe, if_pos due]
    refine ⟨⟨positive, ?_⟩, rfl, rfl, reports_full positive more full⟩
    show read + n = if read + n = t.total then t.total else (read + n) / t.interval * t.interval
    split
    · next ended => exact ended
    · exact whole.symm
  · have same : (read + n) / t.interval = read / t.interval :=
      Nat.div_eq_of_lt_le (by omega) (by omega)
    by_cases ended : read + n = t.total
    · -- The read ends at the last byte.
      have due : t.due (read + n) = true := due_iff.mpr (by omega)
      rw [Throttle.observe, if_pos due]
      refine ⟨⟨positive, ?_⟩, rfl, rfl, ?_⟩
      · show read + n = if read + n = t.total then t.total else (read + n) / t.interval * t.interval
        rw [if_pos ended, ended]
      · rw [ended]
        exact reports_total more (by omega)
    · have early : ¬ t.due (read + n) = true := by
        rw [due_iff]
        omega
      rw [Throttle.observe, if_neg early]
      refine ⟨⟨positive, ?_⟩, rfl, rfl, ?_⟩
      · rw [if_neg ended, same, last]
      · simp only [Bool.false_eq_true, if_false, List.append_nil]
        exact reports_between (by omega) more same

end Throttle

namespace Reader

open Throttle (reports)

variable {r r' r₁ : Reader} {t t₁ t₂ : List Exchange} {room interval : Nat} {summary : Summary}

/-- What an exchange tells of the progress. -/
def told? : Exchange → Option (Summary × Nat × Nat)
  | ⟨.progress summary read total, _⟩ => some (summary, read, total)
  | _ => none

/-- What has been told of the progress on the way. -/
def told (t : List Exchange) : List (Summary × Nat × Nat) :=
  t.filterMap told?

theorem told_append (t₁ t₂ : List Exchange) : told (t₁ ++ t₂) = told t₁ ++ told t₂ :=
  List.filterMap_append

theorem OneRequest.told_eq (one : r.OneRequest t) : told t = [] := by
  obtain ⟨⟨offset, asked⟩, -⟩ := one
  refine List.filterMap_eq_nil_iff.mpr ?_
  rintro ⟨q, reply⟩ hx
  rcases asked _ hx with rfl | rfl <;> rfl

theorem Fills.told_eq {result : Except TransferError Unit} (filling : Fills r t result r') :
    told t = [] := by
  obtain ⟨t₁, t₂, rfl, one₁, one₂⟩ := filling.requests
  rw [told_append, one₁.told_eq, one₂.told_eq, List.append_nil]

/-- What is to be told of a reader's progress. -/
def account (interval : Nat) (summary : Summary) (r : Reader) : List (Summary × Nat × Nat) :=
  (reports interval r.length r.bytesRead).map fun read => (summary, read, r.length)

theorem account_of_unread (unread : r.bytesRead = 0) : account interval summary r = [] := by
  rw [account, unread, Throttle.reports_zero, List.map_nil]

/-- A reader that has told what is to be told of its progress. -/
structure Telling (interval : Nat) (summary : Summary) (r : Reader) : Prop where
  begun : r.bytesRead ≤ r.length
  installed : ∃ throttle, r.progress = some (throttle, summary) ∧ throttle.Keeps r.bytesRead ∧
    throttle.interval = interval ∧ throttle.total = r.length

theorem telling_new (location : String) (start stop length size : Nat) (policy : RetryPolicy)
    (interval : Nat) (summary : Summary) :
    Telling (max interval 1) summary
      (opened location start stop length size policy (some (interval, summary))) :=
  ⟨Nat.zero_le _, _, rfl, Throttle.keeps_new interval length, rfl, rfl⟩

/-- A way from a reader to a reader on which all is told that is new of the progress. -/
structure Tells (interval : Nat) (summary : Summary) (r : Reader) (t : List Exchange) (r' : Reader) :
    Prop where
  telling : Telling interval summary r'
  length : r'.length = r.length
  account : account interval summary r' = account interval summary r ++ told t

theorem Telling.stays (telling : Telling interval summary r) : Tells interval summary r [] r :=
  ⟨telling, rfl, (List.append_nil _).symm⟩

theorem Tells.trans (first : Tells interval summary r t₁ r₁) (second : Tells interval summary r₁ t₂ r') :
    Tells interval summary r (t₁ ++ t₂) r' := by
  refine ⟨second.telling, second.length.trans first.length, ?_⟩
  rw [second.account, first.account, told_append, List.append_assoc]

theorem Tells.after_silent (tells : Tells interval summary r t₂ r') (silent : told t₁ = []) :
    Tells interval summary r (t₁ ++ t₂) r' := by
  refine ⟨tells.telling, tells.length, ?_⟩
  rw [tells.account, told_append, silent, List.nil_append]

theorem Tells.before_silent (tells : Tells interval summary r t₁ r') (silent : told t₂ = []) :
    Tells interval summary r (t₁ ++ t₂) r' := by
  refine ⟨tells.telling, tells.length, ?_⟩
  rw [tells.account, told_append, silent, List.append_nil]

theorem portion_le_untilNext {throttle : Throttle} (installed : r.progress = some (throttle, summary))
    (later : 0 < throttle.untilNext r.bytesRead) :
    r.portion room ≤ throttle.untilNext r.bytesRead := by
  unfold portion
  rw [installed]
  dsimp only
  rw [if_pos later]
  exact Nat.min_le_right ..

/-- Bytes are given out up to the next report at most, and it is made when it is reached. -/
theorem handOut_tells (telling : Telling interval summary r) (more : r.bytesRead < r.length)
    (moving : 0 < r.portion room) (within : r.portion room ≤ r.length - r.bytesRead)
    (run : (r.handOut room).report.Trace t r') : Tells interval summary r t r' := by
  obtain ⟨throttle, installed, keeps, rfl, total⟩ := telling.installed
  have before : r.bytesRead < throttle.total := total ▸ more
  have fits : r.portion room ≤ throttle.untilNext r.bytesRead :=
    portion_le_untilNext installed (keeps.untilNext_pos before)
  have below : r.bytesRead + r.portion room ≤ r.length := by omega
  obtain ⟨keeps', interval', total', next⟩ := keeps.observe before moving fits
  rcases report_cases run with ⟨nothing, -, -⟩ | ⟨throttle', summary', same, rfl, rfl⟩
  · exact absurd (installed.symm.trans nothing) nofun
  · obtain ⟨rfl, rfl⟩ := Prod.mk.inj (Option.some.inj (installed.symm.trans same))
    refine ⟨⟨below, _, rfl, keeps', interval', total'.trans total⟩, rfl, ?_⟩
    show (reports throttle.interval r.length (r.bytesRead + r.portion room)).map _ = _
    rw [← total, next, List.map_append, account, total]
    congr 1
    show _ = told (if (throttle.observe (r.bytesRead + r.portion room)).1 then
      [⟨.progress summary (r.bytesRead + r.portion room) r.length, ()⟩] else [])
    split <;> rfl

theorem read_tells {result : Except TransferError Bytes} (telling : Telling interval summary r)
    (run : (r.read room).Trace t (result, r')) : Tells interval summary r t r' := by
  cases reads_of_trace run with
  | idle nothing => exact telling.stays
  | failing more roomy used filling =>
    have silent : told t = [] := filling.told_eq
    obtain ⟨parts, buffer, cursor, rfl⟩ := filling.kept
    refine ⟨⟨telling.begun, telling.installed⟩, rfl, ?_⟩
    rw [silent, List.append_nil]
    rfl
  | @giving t₁ t₂ r₁ _ more roomy filling reporting =>
    have silent : told t₁ = [] := filling.told_eq
    obtain ⟨-, -, moving, -, within⟩ := filling.handOut more roomy
    obtain ⟨parts, buffer, cursor, rfl⟩ := filling.kept
    have telling₁ : Telling interval summary { r with parts, buffer, cursor } :=
      ⟨telling.begun, telling.installed⟩
    have tells := handOut_tells telling₁ more moving within reporting
    exact Tells.after_silent ⟨tells.telling, tells.length, tells.account⟩ silent

theorem readEach_tells {rooms : List Nat} {results : List (Except TransferError Bytes)}
    (telling : Telling interval summary r) (run : (readEach rooms r).Trace t (results, r')) :
    Tells interval summary r t r' := by
  induction rooms generalizing r t results with
  | nil =>
    simp only [readEach, Job.pure_eq, Job.trace_done, Prod.mk.injEq] at run
    obtain ⟨rfl, rfl, rfl⟩ := run
    exact telling.stays
  | cons room rooms ih =>
    obtain ⟨result, later, r₁, t₁, t₂, rfl, rfl, first, others⟩ := readEach_cons run
    have tells : Tells interval summary r t₁ r₁ := read_tells telling first
    exact tells.trans (ih tells.telling others)

/-- Whether nothing is told of a progress where bytes are written. -/
def Sink.Silent {σ : Type} (sink : Sink σ) : Prop :=
  (∀ s out t x, (sink.write s out).Trace t x → told t = []) ∧
    ∀ s t x, (sink.flush s).Trace t x → told t = []

theorem Copies.tells {σ : Type} {sink : Sink σ} {s s' : σ} {reads : Nat} {blocks : List Bytes}
    {outcome : Except TransferError Unit} (copies : Copies sink r s reads blocks t outcome r' s')
    (silent : sink.Silent) (telling : Telling interval summary r) : Tells interval summary r t r' := by
  induction copies with
  | unread reading => exact read_tells telling reading
  | flushed reading _ flushing =>
    exact (read_tells telling reading).before_silent (silent.2 _ _ _ flushing)
  | unflushed reading _ flushing =>
    exact (read_tells telling reading).before_silent (silent.2 _ _ _ flushing)
  | unwritten reading _ writing =>
    exact (read_tells telling reading).before_silent (silent.1 _ _ _ _ writing)
  | block reading _ writing _ ih =>
    have tells := read_tells telling reading
    exact tells.trans ((ih tells.telling).after_silent (silent.1 _ _ _ _ writing))

end Reader

namespace Transfer

open Throttle (reports)
open Reader (Sink copyTo opened readEach told)

variable {engine : Engine} {task : Task} {file : RemoteFile} {cachePath : String}
  {t : List Exchange} {result : Except TransferError Unit}

theorem fileSink_silent (path : String) : (fileSink path).Silent := by
  constructor
  · intro u out t x run
    rw [fileSink_write_trace run]
    rfl
  · intro u t x run
    rw [(Job.trace_done.mp run).1]
    rfl

theorem download_tells (run : (download engine task file cachePath).Trace t result) :
    ∃ read ≤ file.size, (result = .ok () → read = file.size) ∧
      told t = (reports (progressInterval file.size) file.size read).map fun n =>
        (task.summary, n, file.size) := by
  rcases download_cases run with ⟨e, rfl, rfl⟩ | ⟨reads, blocks, t₁, r', rfl, copies⟩
  · refine ⟨0, Nat.zero_le _, nofun, ?_⟩
    rw [Throttle.reports_zero]
    rfl
  · have telling : Reader.Telling (progressInterval file.size) task.summary
        (cacheReader engine task file) :=
      ⟨Nat.zero_le _, _, rfl, Throttle.keeps_new .., Nat.max_eq_left (Nat.le_max_right ..), rfl⟩
    have fresh : Reader.account (progressInterval file.size) task.summary
        (cacheReader engine task file) = [] := Reader.account_of_unread rfl
    have tells := copies.tells (fileSink_silent cachePath) telling
    have size : r'.length = file.size := tells.length
    have account := tells.account
    rw [fresh, List.nil_append, Reader.account, size] at account
    refine ⟨r'.bytesRead, size ▸ tells.telling.begun, ?_, account.symm⟩
    intro complete
    exact ((copies.within (Nat.zero_le _)).2.2 complete).2

/-- The reports are the full intervals up to the bytes that have been read, each of them once, and the
total at its end: whatever the source answers, whatever the sizes of the chunks and of the rooms, after
reads that failed and when the rest is copied. A complete download of a file makes about a hundred. -/
theorem reports_are_exact :
    (∀ (location : String) (start stop length size : Nat) (policy : RetryPolicy) (interval : Nat)
      (summary : Summary) (rooms : List Nat) t results r,
      (readEach rooms (opened location start stop length size policy (some (interval, summary)))).Trace
        t (results, r) →
      let counts := reports (max interval 1) length
      told t = ((counts r.bytesRead).map fun n => (summary, n, length)) ∧
      (counts r.bytesRead).Pairwise (· < ·) ∧
      (0 < length → (counts r.bytesRead).count length = if r.bytesRead = length then 1 else 0) ∧
      ∀ (σ : Type) (sink : Sink σ), sink.Silent → ∀ s u result r' s',
        (copyTo sink r s).Trace u (result, r', s') →
        told (t ++ u) = ((counts r'.bytesRead).map fun n => (summary, n, length)) ∧
        ∀ n, result = .ok n → r'.bytesRead = length) ∧
    ∀ (engine : Engine) (task : Task) (file : RemoteFile) (cachePath : String), 0 < file.size →
      let counts := reports (progressInterval file.size) file.size file.size
      (∃ t, (download engine task file cachePath).Trace t (.ok ())) ∧
      (∀ t, (download engine task file cachePath).Trace t (.ok ()) →
        told t = (counts.map fun n => (task.summary, n, file.size)) ∧
        min file.size 100 ≤ (told t).length ∧ (told t).length ≤ 199) ∧
      counts.Pairwise (· < ·) ∧ counts.count file.size = 1 := by
  constructor
  · intro location start stop length size policy interval summary rooms t results r run counts
    have positive : 0 < max interval 1 := Nat.le_max_right ..
    obtain ⟨telling, same, account⟩ :=
      Reader.readEach_tells (Reader.telling_new location start stop length size policy interval summary) run
    have expecting : r.length = length := same
    have begun : r.bytesRead ≤ length := expecting ▸ telling.begun
    have fresh : Reader.account (max interval 1) summary
        (opened location start stop length size policy (some (interval, summary))) = [] :=
      Reader.account_of_unread rfl
    rw [fresh, List.nil_append] at account
    refine ⟨?_, Throttle.reports_increase positive begun, ?_, ?_⟩
    · rw [← account, Reader.account, expecting]
    · intro sized
      exact Throttle.count_reports_total positive sized begun
    · intro σ sink silent s u result r' s' copying
      obtain ⟨reads, blocks, outcome, copies, rfl⟩ := (Reader.copyTo_trace_iff telling.begun).mp copying
      have tells := copies.tells silent telling
      constructor
      · rw [Reader.told_append, ← account, ← tells.account, Reader.account, tells.length, expecting]
      · intro n complete
        have ended : outcome = .ok () := by
          cases outcome with
          | error e => exact absurd complete nofun
          | ok _ => rfl
        rw [((copies.within telling.begun).2.2 ended).2, expecting]
  · intro engine task file cachePath sized counts
    have positive : 0 < progressInterval file.size := Nat.le_max_right ..
    refine ⟨exists_download .., ?_, Throttle.reports_increase positive (Nat.le_refl _), ?_⟩
    · intro t run
      obtain ⟨read, -, complete, account⟩ := download_tells run
      rw [complete rfl] at account
      rw [account, List.length_map]
      exact ⟨rfl, Throttle.length_reports_progressInterval file.size⟩
    · rw [Throttle.count_reports_total positive sized (Nat.le_refl _), if_pos rfl]

end Transfer

end Courier
