import Courier.Proofs.Transfer.Copying
import Courier.Proofs.Transfer.Downloading

/-! Downloads as copies. Where nothing fails and no chunk is empty a download is complete, whatever
the bytes and the sizes of the chunks are. -/
namespace Courier.Transfer

open Reader (Continues Copies Safe copyRoom fault?)

variable {engine : Engine} {task : Task} {file : RemoteFile} {cachePath : String}
  {t : List Exchange} {result : Except TransferError Unit}

/-- The file cannot be created, or the bytes are copied into it. -/
theorem download_cases (run : (download engine task file cachePath).Trace t result) :
    (∃ e, t = [⟨.createFile cachePath, .error e⟩] ∧ result = .error (.file cachePath e)) ∨
    ∃ reads blocks t₁ r', t = ⟨.createFile cachePath, .ok ()⟩ :: t₁ ∧
      Copies (fileSink cachePath) (cacheReader engine task file) () reads blocks t₁ result r' () := by
  simp only [download, Job.bind_eq, Job.request, Job.ask_bind, Job.done_bind, Job.trace_ask] at run
  obtain ⟨reply, t, rfl, rest⟩ := run
  cases reply with
  | error e =>
    simp only [Job.pure_eq, Job.trace_done] at rest
    obtain ⟨rfl, rfl⟩ := rest
    exact Or.inl ⟨e, rfl, rfl⟩
  | ok =>
    simp only [Job.trace_bind, Job.pure_eq, Job.trace_done] at rest
    obtain ⟨⟨copying, r', u⟩, t₁, _, rfl, run, rfl, rfl⟩ := rest
    obtain ⟨reads, blocks, outcome, copies, rfl⟩ := (Reader.copyTo_trace_iff (Nat.zero_le _)).mp run
    refine Or.inr ⟨reads, blocks, t₁, r', by rw [List.append_nil], ?_⟩
    cases outcome <;> exact copies

/-- An answer where nothing fails, the task is not canceled and a chunk is not empty. -/
def Obliging : Exchange → Prop
  | ⟨.canceled, reply⟩ => reply = false
  | ⟨.fetchChunk .., reply⟩ => ∃ chunk, reply = some (.ok chunk) ∧ 0 < chunk.size
  | ⟨.createFile _, reply⟩ => reply = .ok ()
  | ⟨.appendFile .., reply⟩ => reply = .ok ()
  | _ => True

theorem exists_obliging (q : Request) : ∃ reply, Obliging ⟨q, reply⟩ := by
  cases q with
  | canceled => exact ⟨false, rfl⟩
  | fetchChunk _ _ _ => exact ⟨_, ⟨#[0]⟩, rfl, Nat.one_pos⟩
  | createFile _ => exact ⟨_, rfl⟩
  | appendFile _ _ => exact ⟨_, rfl⟩
  | _ => exact ⟨Request.someReply _, trivial⟩

theorem Obliging.fault?_eq {x : Exchange} (obliging : Obliging x) : fault? x = none := by
  obtain ⟨q, reply⟩ := x
  cases q with
  | canceled =>
    obtain rfl : reply = false := obliging
    rfl
  | fetchChunk _ _ _ =>
    obtain ⟨chunk, rfl, -⟩ := obliging
    rfl
  | _ => rfl

theorem not_blankAnew {r : Reader} (whole : r.start = 0) (obliging : ∀ x ∈ t, Obliging x) :
    ¬ r.BlankAnew t := by
  rintro ⟨chunk, requested, short⟩
  rw [whole, Nat.zero_mod] at short
  rcases fetchWithRetry_trace requested with ⟨bytes, front, last, same, rfl, fetched⟩ | ⟨_, failed, -⟩
  · simp only [Job.request, Job.trace_ask, Job.trace_done] at fetched
    obtain ⟨reply, _, rfl, rfl, rfl⟩ := fetched
    obtain ⟨_, given, filled⟩ := obliging _ (List.mem_append_right front (List.mem_cons_self ..))
    obtain rfl := Except.ok.inj same
    obtain rfl := Except.ok.inj (Option.some.inj given)
    exact Nat.not_le_of_lt filled short
  · cases failed

theorem read_obliging {r r' : Reader} {room : Nat} {e : TransferError} (whole : r.start = 0)
    (positive : 0 < r.chunkSize) (begun : r.bytesRead ≤ r.length) (obliging : ∀ x ∈ t, Obliging x) :
    ¬ (r.read room).Trace t (.error e, r') := by
  intro run
  have safe : Safe r room t (.error e) r' := Reader.read_safe begun run
  have ordered : r.start ≤ r.stop := whole ▸ Nat.zero_le r.stop
  rcases (safe.fails e rfl).2 with ⟨x, hx, fault⟩ | ⟨expected, actual, rfl⟩
  · exact absurd ((obliging x hx).fault?_eq.symm.trans fault) nofun
  · obtain ⟨-, -, -, -, -, t₁, t₂, rfl, -, blank⟩ :=
      (Reader.read_short_iff positive ordered run expected actual).mp rfl
    exact not_blankAnew whole (fun x hx => obliging x (List.mem_append_right t₁ hx)) blank

theorem fileSink_write_trace {path : String} {out : Bytes} {u u' : Unit} {wrote : Except OsError Unit}
    (run : ((fileSink path).write u out).Trace t (wrote, u')) : t = [⟨.appendFile path out, wrote⟩] := by
  simp only [fileSink, Job.bind_eq, Job.request, Job.ask_bind, Job.done_bind, Job.pure_eq,
    Job.trace_ask, Job.trace_done, Prod.mk.injEq] at run
  obtain ⟨reply, _, rfl, rfl, rfl, -⟩ := run
  rfl

theorem copies_obliging {r r' : Reader} {u u' : Unit} {reads : Nat} {blocks : List Bytes}
    (copies : Copies (fileSink cachePath) r u reads blocks t result r' u') (whole : r.start = 0)
    (positive : 0 < r.chunkSize) (begun : r.bytesRead ≤ r.length) (obliging : ∀ x ∈ t, Obliging x) :
    result = .ok () := by
  have write_ok : ∀ {out t u u'} {e : OsError}, (∀ x ∈ t, Obliging x) →
      ¬ ((fileSink cachePath).write u out).Trace t (.error e, u') := by
    intro out t u u' e obliging writing
    obtain rfl := fileSink_write_trace writing
    exact absurd (obliging _ (List.mem_cons_self ..)) nofun
  induction copies with
  | unread reading => exact absurd reading (read_obliging whole positive begun obliging)
  | flushed => rfl
  | unflushed _ _ flushing => exact absurd (Job.trace_done.mp flushing).2 nofun
  | @unwritten _ _ _ _ t₁ t₂ _ _ _ _ writing =>
    exact absurd writing (write_ok fun x hx => obliging x (List.mem_append_right t₁ hx))
  | @block _ _ _ _ _ _ t₁ t₂ t₃ _ _ _ _ reading _ _ _ ih =>
    have continues : Continues _ _ := (Reader.read_safe begun reading).continues
    obtain ⟨-, begun₁, -⟩ := Reader.read_fewer begun reading
    exact ih (continues.start.trans whole) (continues.chunkSize.symm ▸ positive) begun₁
      fun x hx => obliging x (List.mem_append_right t₁ (List.mem_append_right t₂ hx))

theorem download_obliging (run : (download engine task file cachePath).Trace t result)
    (obliging : ∀ x ∈ t, Obliging x) : result = .ok () := by
  rcases download_cases run with ⟨e, rfl, rfl⟩ | ⟨reads, blocks, t₁, r', rfl, copies⟩
  · exact absurd (obliging _ (List.mem_cons_self ..)) nofun
  · have positive : 0 < (cacheReader engine task file).chunkSize := Nat.le_max_right ..
    exact copies_obliging copies rfl positive (Nat.zero_le _)
      fun x hx => obliging x (List.mem_cons_of_mem _ hx)

theorem exists_download (engine : Engine) (task : Task) (file : RemoteFile) (cachePath : String) :
    ∃ t, (download engine task file cachePath).Trace t (.ok ()) := by
  obtain ⟨t, result, run, obliging⟩ :=
    Job.exists_trace_forall exists_obliging (download engine task file cachePath)
  obtain rfl := download_obliging run obliging
  exact ⟨t, run⟩

end Courier.Transfer
