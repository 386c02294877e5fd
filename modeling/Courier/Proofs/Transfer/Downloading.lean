import Courier.Proofs.Transfer.ByteLaw
import Courier.Proofs.Transfer.Depot

/-! Downloads. The cache file of a download that succeeds holds the bytes that are announced of the object,
and no download writes to a storage. -/
namespace Courier.Transfer

open Answering (follows_append)

variable {env : Setting} {w w' : Depot} {t : List Exchange}

/-- The reader's bytes are put into the file one after another, until they are all there or a read or
a write fails. -/
theorem copyLoop_trace {r r' : Reader} {path : String} {reads written : Nat}
    {result : Except TransferError Nat} {u : Unit} {held : Bytes}
    (tracks : Reader.Tracks (env.objects r.location) r) (read : w.files.read path = .ok held)
    (bytes : held.data.toList = r.stretch (env.objects r.location) 0 r.bytesRead)
    (begun : r.bytesRead ≤ r.length) (enough : r.length - r.bytesRead < reads)
    (run : (Reader.copyLoop (fileSink path) r () written reads).Trace t (result, r', u))
    (follows : Answering.Follows env.answers w t w') :
    w'.written = w.written ∧
      ((∃ n content, result = .ok n ∧ w'.files.read path = .ok content ∧
        content.data.toList = r.stretch (env.objects r.location) 0 r.length) ∨
      ∃ e, result = .error e ∧ (Hindered t ∨ r.available (env.objects r.location) = 0)) := by
  -- The file holds what the reader has given out, and the reads that are left are enough for the rest.
  induction reads generalizing r w t written held with
  | zero => exact absurd enough (Nat.not_lt_zero _)
  | succ reads ih =>
    simp only [Reader.copyLoop, Job.bind_eq, Job.trace_bind] at run
    obtain ⟨⟨next, r₁⟩, t₁, t₂, rfl, reading, rest⟩ := run
    obtain ⟨w₁, follows₁, follows₂⟩ := follows_append.mp follows
    have quiet := Reader.read_asks (P := (Setting.isQuiet · = true)) rfl (fun _ _ _ => rfl)
      (fun _ _ _ => rfl) r Reader.copyRoom
    obtain rfl := Setting.eq_of_asks_isQuiet quiet reading follows₁
    rcases Reader.read_trace tracks reading (Setting.serves follows₁ r.location) with
      ⟨out, rfl, gives⟩ | ⟨e, rfl, fails⟩
    · by_cases empty : out.size = 0
      · -- Nothing more is given out, so the whole range has been.
        have ended : r.bytesRead = r.length := by
          by_contra more
          have := (gives.pos (by decide) (by omega)).1
          omega
        simp only [if_pos empty, fileSink, Job.pure_eq, Job.done_bind, Job.trace_done,
          Prod.mk.injEq] at rest
        obtain ⟨rfl, rfl, -⟩ := rest
        obtain rfl : w' = w₁ := follows₂
        exact ⟨rfl, Or.inl ⟨written, held, rfl, read, by rw [bytes, ended]⟩⟩
      · simp only [if_neg empty, fileSink, Job.bind_eq, Job.request, Job.ask_bind, Job.done_bind,
          Job.pure_eq, Job.trace_ask] at rest
        obtain ⟨reply, t₂, rfl, rest⟩ := rest
        obtain ⟨w₂, appended, follows₂⟩ := follows₂
        cases reply with
        | error e =>
          simp only [Job.trace_done, Prod.mk.injEq] at rest
          obtain ⟨rfl, rfl, -⟩ := rest
          obtain rfl : w' = w₂ := follows₂
          refine ⟨appended.1, Or.inr ⟨_, rfl, Or.inl ?_⟩⟩
          exact (hindered_head (by simp [Hinders]) _).append_right _
        | ok =>
          have hle := gives.le
          have hread : w₂.files.read path = .ok (held ++ out) := by
            rw [appended.2 rfl]
            exact FileTree.read_append read out
          have hbytes : (held ++ out).data.toList =
              r₁.stretch (env.objects r₁.location) 0 r₁.bytesRead := by
            have h := Reader.stretch_append r (env.objects r.location) 0 r.bytesRead out.size
            rw [Nat.zero_add] at h
            rw [ByteArray.toList_data_append, bytes, gives.bytes, h, gives.continues.location,
              gives.continues.stretch, gives.bytesRead]
          have h := ih (by rw [gives.continues.location]; exact gives.tracks) hread hbytes
            (by rw [gives.continues.length, gives.bytesRead]; omega)
            (by rw [gives.continues.length, gives.bytesRead]; omega) rest follows₂
          rw [gives.continues.location, gives.continues.length, gives.continues.stretch,
            gives.continues.available, appended.1] at h
          refine ⟨h.1, h.2.imp_right ?_⟩
          rintro ⟨e, rfl, why⟩
          exact ⟨e, rfl, why.imp_left fun why => (why.cons _).append_right _⟩
    · simp only [Job.pure_eq, Job.trace_done, Prod.mk.injEq] at rest
      obtain ⟨rfl, rfl, -⟩ := rest
      obtain rfl : w' = w₁ := follows₂
      refine ⟨rfl, Or.inr ⟨e, rfl, ?_⟩⟩
      rcases fails.cause with fault | ⟨absent, -⟩
      · exact Or.inl ((hindered_of_fault fault).append_left [])
      · exact Or.inr absent

/-- The reader that a file is downloaded with. -/
def cacheReader (engine : Engine) (task : Task) (file : RemoteFile) : Reader :=
  ((Reader.whole file chunkSize).withPolicy engine.policy).withProgress
    (progressInterval file.size) task.summary

/-- What a download of a size is to store of an object: one request's worth where the size is unknown. An
object that is shorter is gone over again. -/
def stored (object : Bytes) (size : Nat) : Bytes :=
  if size = 0 then object.extract 0 chunkSize
  else ⟨(Reader.announced object 0 (size - 1) size).toArray⟩

theorem stored_eq_extract {object : Bytes} {size : Nat} (large : size ≤ object.size) :
    stored object size = object.extract 0 (if size = 0 then chunkSize else size) := by
  unfold stored
  split
  · rfl
  · next sized =>
    have within : size - 1 < object.size := by omega
    have all := Reader.announced_eq_extract (Nat.zero_le (size - 1)) within
    rw [Nat.sub_zero, Nat.sub_add_cancel (Nat.pos_of_ne_zero sized)] at all
    rw [all, Array.toArray_toList]

/-- A file is downloaded chunk by chunk unless something fails on the way, or there is no object. -/
theorem download_trace {engine : Engine} {task : Task} {file : RemoteFile} {cachePath : String}
    {result : Except TransferError Unit} (sized : 0 < file.size)
    (run : (download engine task file cachePath).Trace t result)
    (follows : Answering.Follows env.answers w t w') :
    w'.written = w.written ∧
      ((result = .ok () ∧ w'.files.read cachePath = .ok (stored (env.objects file.location) file.size)) ∨
      ∃ e, result = .error e ∧ (Hindered t ∨ (env.objects file.location).size = 0)) := by
  simp only [download, Job.bind_eq, Job.request, Job.ask_bind, Job.done_bind, Job.trace_ask] at run
  obtain ⟨reply, t, rfl, rest⟩ := run
  obtain ⟨w₁, created, follows⟩ := follows
  cases reply with
  | error e =>
    simp only [Job.pure_eq, Job.trace_done] at rest
    obtain ⟨rfl, rfl⟩ := rest
    obtain rfl : w' = w₁ := follows
    exact ⟨created.1, Or.inr ⟨_, rfl, Or.inl (hindered_head (by simp [Hinders]) _)⟩⟩
  | ok =>
    simp only [Job.trace_bind, Job.pure_eq, Job.trace_done] at rest
    obtain ⟨⟨copied, r', u⟩, t₁, _, rfl, copying, rfl, rfl⟩ := rest
    rw [List.append_nil] at follows ⊢
    have tracks : Reader.Tracks (env.objects file.location) (cacheReader engine task file) :=
      Reader.tracks_of_new _ (Nat.le_max_right ..) (Nat.zero_le _) rfl rfl rfl
    have h := copyLoop_trace (r := cacheReader engine task file) tracks (FileTree.read_write (created.2 rfl))
      rfl (Nat.zero_le _) (Nat.lt_succ_self _) copying follows
    refine ⟨h.1.trans created.1, ?_⟩
    rcases h.2 with ⟨n, content, rfl, read, bytes⟩ | ⟨e, rfl, why⟩
    · rw [Reader.stretch_eq_announced] at bytes
      have same : content = stored (env.objects file.location) file.size := by
        rw [stored, if_neg (Nat.ne_of_gt sized)]
        exact ByteArray.ext (Array.toList_inj.mp bytes)
      exact Or.inl ⟨rfl, same ▸ read⟩
    · refine Or.inr ⟨e, rfl, why.imp (·.cons _) fun absent => ?_⟩
      have absent : min (env.objects file.location).size (file.size - 1 + 1) - 0 = 0 := absent
      omega

theorem downloadInline_trace {engine : Engine} {task : Task} {file : RemoteFile} {cachePath : String}
    {result : Except TransferError Unit}
    (run : (downloadInline engine task file cachePath).Trace t result)
    (follows : Answering.Follows env.answers w t w') :
    w'.written = w.written ∧
      ((result = .ok () ∧
        w'.files.read cachePath = .ok ((env.objects file.location).extract 0 chunkSize)) ∨
      ∃ e, result = .error e ∧ Hindered t) := by
  simp only [downloadInline, Job.bind_eq, Job.trace_bind] at run
  obtain ⟨fetched, t₁, t₂, rfl, fetching, rest⟩ := run
  obtain ⟨w₁, follows₁, follows₂⟩ := follows_append.mp follows
  have asks : (fetchWithRetry engine.policy (Job.request
      (.fetchWhole file.location chunkSize))).Asks (Setting.isQuiet · = true) :=
    fetchWithRetry_asks engine.policy rfl ⟨rfl, fun _ => Job.asks_done ..⟩
  obtain rfl := Setting.eq_of_asks_isQuiet asks fetching follows₁
  rcases fetchWithRetry_trace fetching with ⟨bytes, front, last, rfl, rfl, made⟩ | ⟨e, rfl, failed⟩
  · simp only [Job.request, Job.trace_ask, Job.trace_done] at made
    obtain ⟨reply, _, rfl, rfl, rfl⟩ := made
    obtain ⟨_, -, _, answered, -⟩ := follows_append.mp follows₁
    have hbytes := answered.2 bytes rfl
    simp only [Job.request, Job.ask_bind, Job.done_bind, Job.pure_eq, Job.trace_ask] at rest
    obtain ⟨reply, t₂, rfl, rest⟩ := rest
    obtain ⟨w₂, wrote, follows₂⟩ := follows₂
    cases reply with
    | error e =>
      simp only [Job.trace_done] at rest
      obtain ⟨rfl, rfl⟩ := rest
      obtain rfl : w' = w₂ := follows₂
      exact ⟨wrote.1, Or.inr ⟨_, rfl, (hindered_head (by simp [Hinders]) _).append_right _⟩⟩
    | ok =>
      simp only [Job.trace_ask, Job.trace_done] at rest
      obtain ⟨_, _, rfl, rfl, rfl⟩ := rest
      obtain ⟨w₃, told, rfl⟩ := follows₂
      obtain rfl : w' = w₂ := told
      rw [← hbytes]
      exact ⟨wrote.1, Or.inl ⟨rfl, FileTree.read_write (wrote.2 rfl)⟩⟩
  · simp only [Job.pure_eq, Job.trace_done] at rest
    obtain ⟨rfl, rfl⟩ := rest
    obtain rfl : w' = w₁ := follows₂
    exact ⟨rfl, Or.inr ⟨e, rfl, (hindered_of_fetchFailed failed).append_left []⟩⟩

/-- What is downloaded of a file: its announced size, or what one request gives. -/
def wanted (env : Setting) (file : RemoteFile) : Bytes :=
  (env.objects file.location).extract 0 (if file.size = 0 then 1024 * 1024 else file.size)

theorem fetchFile_stored {engine : Engine} {task : Task} {file : RemoteFile} {cachePath : String}
    {result : Except TransferError Unit} (run : (fetchFile engine task file cachePath).Trace t result)
    (follows : Answering.Follows env.answers w t w') :
    w'.written = w.written ∧
      ((result = .ok () ∧ w'.files.read cachePath = .ok (stored (env.objects file.location) file.size)) ∨
      ∃ e, result = .error e ∧
        (Hindered t ∨ 0 < file.size ∧ (env.objects file.location).size = 0)) := by
  unfold fetchFile at run
  by_cases small : file.size = 0
  · rw [if_pos (by simpa [RemoteFile.isInline] using small)] at run
    rw [stored, if_pos small]
    refine (downloadInline_trace run follows).imp_right (.imp_right ?_)
    rintro ⟨e, rfl, why⟩
    exact ⟨e, rfl, Or.inl why⟩
  · rw [if_neg (by simpa [RemoteFile.isInline] using small)] at run
    have sized := Nat.pos_of_ne_zero small
    refine (download_trace sized run follows).imp_right (.imp_right ?_)
    rintro ⟨e, rfl, why⟩
    exact ⟨e, rfl, why.imp_right fun absent => ⟨sized, absent⟩⟩

theorem fetchFile_trace {engine : Engine} {task : Task} {file : RemoteFile} {cachePath : String}
    {result : Except TransferError Unit} (large : file.size ≤ (env.objects file.location).size)
    (run : (fetchFile engine task file cachePath).Trace t result)
    (follows : Answering.Follows env.answers w t w') :
    w'.written = w.written ∧
      ((result = .ok () ∧ w'.files.read cachePath = .ok (wanted env file)) ∨
      ∃ e, result = .error e ∧ Hindered t) := by
  have all : stored (env.objects file.location) file.size = wanted env file := stored_eq_extract large
  rw [← all]
  refine (fetchFile_stored run follows).imp_right (.imp_right ?_)
  rintro ⟨e, rfl, why⟩
  exact ⟨e, rfl, why.resolve_right (by omega)⟩

end Courier.Transfer
