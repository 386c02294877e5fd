import Courier.Proofs.Transfer.Reading

/-! What a caller gets who reads on and on, also after a failure: the announced number of bytes, which
are those of the range, and from its start again where the object is shorter than announced. -/
namespace Courier.Reader

/-- Reads into rooms of some sizes one after another; a failed read does not end it. -/
def readEach : List Nat → Reader → Job (List (Except TransferError Bytes) × Reader)
  | [], r => return ([], r)
  | room :: rooms, r => do
    let (result, r) ← r.read room
    let (results, r) ← readEach rooms r
    return (result :: results, r)

def given : List (Except TransferError Bytes) → List UInt8
  | [] => []
  | .ok out :: results => out.data.toList ++ given results
  | .error _ :: results => given results

/-- Exchanges of a trace that are failed fetches. -/
def faults (t : List Exchange) : Nat :=
  t.countP fun x => (fault? x).isSome

/-- An answer while the task is not canceled: a fetch fails, or gives what the object at a location
has there. -/
def Answers (location : String) (object : Bytes) : Exchange → Prop
  | ⟨.canceled, reply⟩ => reply = false
  | ⟨.fetchChunk place offset limit, reply⟩ => (∃ cause, reply = some (.error cause)) ∨
      ∃ bytes, reply = some (.ok bytes) ∧ (place = location →
        bytes = object.extract (min offset object.size) (min (offset + limit) object.size))
  | _ => True

theorem exists_answer (location : String) (object : Bytes) (q : Request) :
    ∃ reply, Answers location object ⟨q, reply⟩ := by
  cases q with
  | canceled => exact ⟨false, rfl⟩
  | fetchChunk place offset limit => exact ⟨_, Or.inr ⟨_, rfl, fun _ => rfl⟩⟩
  | _ => exact ⟨Request.someReply _, trivial⟩

theorem Answers.serves {location : String} {object : Bytes} {x : Exchange}
    (h : Answers location object x) : Serves location object x := by
  obtain ⟨q, reply⟩ := x
  cases q with
  | fetchChunk place offset limit =>
    rcases h with ⟨cause, rfl⟩ | ⟨bytes, rfl, hb⟩
    · trivial
    · intro here
      rw [hb here]
      apply extract_congr <;> omega
  | _ => trivial

theorem Answers.fault {location : String} {object : Bytes} {x : Exchange} {e : TransferError}
    (h : Answers location object x) (fault : fault? x = some e) : ∃ place offset limit cause,
      x = ⟨.fetchChunk place offset limit, some (.error cause)⟩ ∧ e = fetchFailure cause := by
  obtain ⟨q, reply⟩ := x
  cases q with
  | canceled =>
    have hr : reply = false := h
    subst hr
    exact absurd fault (by simp [fault?])
  | fetchChunk place offset limit =>
    rcases h with ⟨cause, rfl⟩ | ⟨bytes, rfl, -⟩
    · exact ⟨place, offset, limit, cause, rfl, (Option.some.inj fault).symm⟩
    · exact absurd fault (by simp [fault?])
  | _ => exact absurd fault (by simp [fault?])

variable {object : Bytes} {r r' : Reader} {t : List Exchange} {rooms : List Nat}
  {results : List (Except TransferError Bytes)}

/-- Reads one after another give out one stretch. As long as more is expected each read that does not
fail gives out a byte at least. -/
theorem readEach_trace (tracks : Tracks object r) (present : 0 < r.available object)
    (begun : r.bytesRead ≤ r.length) (roomy : ∀ room ∈ rooms, 0 < room)
    (run : (readEach rooms r).Trace t (results, r')) (serves : ∀ x ∈ t, Serves r.location object x) :
    Continues r r' ∧ given results = r.stretch object r.bytesRead (given results).length ∧
      r'.bytesRead = r.bytesRead + (given results).length ∧ r'.bytesRead ≤ r.length ∧
      (r'.bytesRead = r.length ∨ rooms.length ≤ (given results).length + faults t) := by
  -- Each read goes on from where the reader is; it gives out a byte, or is paid for by a fault.
  induction rooms generalizing r t results with
  | nil =>
    simp only [readEach, Job.pure_eq, Job.trace_done, Prod.mk.injEq] at run
    obtain ⟨rfl, rfl, rfl⟩ := run
    exact ⟨⟨rfl, rfl, rfl, rfl, rfl⟩, rfl, rfl, begun, Or.inr (Nat.zero_le _)⟩
  | cons room rooms ih =>
    simp only [readEach, Job.bind_eq, Job.trace_bind, Job.pure_eq, Job.trace_done, Prod.mk.injEq] at run
    obtain ⟨⟨result, r₁⟩, t₁, _, rfl, first, ⟨later, r₂⟩, t₂, _, rfl, others, rfl, rfl, rfl⟩ := run
    rw [List.append_nil] at serves ⊢
    have serves₁ := fun x hx => serves x (List.mem_append_left t₂ hx)
    have serves₂ := fun x hx => serves x (List.mem_append_right t₁ hx)
    have roomy₂ := fun room h => roomy room (List.mem_cons_of_mem _ h)
    have hfaults : faults (t₁ ++ t₂) = faults t₁ + faults t₂ := List.countP_append
    rcases read_trace tracks first serves₁ with ⟨out, rfl, h⟩ | ⟨e, rfl, h⟩
    · have hout : out.data.toList.length = out.size := by rw [Array.length_toList, ByteArray.size_data]
      have hlength : (given (.ok out :: later)).length = out.size + (given later).length := by
        rw [given, List.length_append, hout]
      have hle := h.le
      obtain ⟨continues, hbytes, hread, hend, hmany⟩ := ih h.tracks (by rwa [h.continues.available])
        (by rw [h.continues.length, h.bytesRead]; omega) roomy₂ others (by rwa [h.continues.location])
      have hpos := h.pos (roomy room (List.mem_cons_self ..))
      rw [h.continues.length] at hend hmany
      refine ⟨h.continues.trans continues, ?_, ?_, hend, ?_⟩
      · rw [hlength, ← stretch_append, given, h.bytes, hbytes, h.continues.stretch, h.bytesRead]
        simp only [length_stretch]
      · rw [hlength, hread, h.bytesRead, Nat.add_assoc]
      · rw [hlength, hfaults, List.length_cons]
        rw [h.bytesRead] at hread
        omega
    · have hfault : 0 < faults t₁ := by
        rcases h.cause with ⟨x, hx, fault⟩ | ⟨absent, -⟩
        · exact List.countP_pos_iff.mpr ⟨x, hx, by rw [fault]; rfl⟩
        · omega
      obtain ⟨continues, hbytes, hread, hend, hmany⟩ := ih h.tracks (by rwa [h.continues.available])
        (by rwa [h.continues.length, h.bytesRead]) roomy₂ others (by rwa [h.continues.location])
      rw [h.continues.length] at hend hmany
      refine ⟨h.continues.trans continues, ?_, ?_, hend, ?_⟩
      · rw [given, ← h.bytesRead, ← h.continues.stretch]
        exact hbytes
      · rw [given, ← h.bytesRead]
        exact hread
      · simp only [given, hfaults, List.length_cons]
        omega

theorem readEach_at_end (ended : r.length ≤ r.bytesRead)
    (run : (readEach rooms r).Trace t (results, r')) : ∀ x ∈ results, x = .ok ByteArray.empty := by
  induction rooms generalizing t results with
  | nil =>
    simp only [readEach, Job.pure_eq, Job.trace_done, Prod.mk.injEq] at run
    simp [run.2.1]
  | cons room rooms ih =>
    simp only [readEach, read, if_pos (Or.inl ended), Job.bind_eq, Job.pure_eq, Job.done_bind,
      Job.trace_bind, Job.trace_done, Prod.mk.injEq] at run
    obtain ⟨⟨later, _⟩, t₁, _, rfl, others, -, rfl, rfl⟩ := run
    intro x hx
    rcases List.mem_cons.mp hx with rfl | hx
    · rfl
    · exact ih others x hx

theorem readEach_append {before later : List (Except TransferError Bytes)}
    (run : (readEach rooms r).Trace t (before ++ later, r')) :
    ∃ rooms₁ rooms₂ t₁ t₂ r₁, rooms = rooms₁ ++ rooms₂ ∧ t = t₁ ++ t₂ ∧
      (readEach rooms₁ r).Trace t₁ (before, r₁) ∧ (readEach rooms₂ r₁).Trace t₂ (later, r') := by
  induction before generalizing rooms r t with
  | nil => exact ⟨[], rooms, [], t, r, rfl, rfl, Job.trace_done.mpr ⟨rfl, rfl⟩, run⟩
  | cons result before ih =>
    cases rooms with
    | nil =>
      simp [readEach] at run
    | cons room rooms =>
      simp only [readEach, Job.bind_eq, Job.trace_bind, Job.pure_eq, Job.trace_done, Prod.mk.injEq,
        List.cons_append, List.cons.injEq] at run
      obtain ⟨⟨_, r₁⟩, t₁, _, rfl, first, ⟨_, r₂⟩, t₂, _, rfl, others, rfl, ⟨rfl, rfl⟩, rfl⟩ := run
      obtain ⟨rooms₁, rooms₂, t₃, t₄, r₃, rfl, rfl, run₁, run₂⟩ := ih others
      refine ⟨room :: rooms₁, rooms₂, t₁ ++ t₃, t₄, r₃, rfl, by simp, ?_, run₂⟩
      simp only [readEach, Job.bind_eq, Job.trace_bind, Job.pure_eq, Job.trace_done]
      exact ⟨_, t₁, t₃, rfl, first, _, t₃, [], by simp, run₁, rfl, rfl⟩

theorem readEach_cons {room : Nat} (run : (readEach (room :: rooms) r).Trace t (results, r')) :
    ∃ result later r₁ t₁ t₂, results = result :: later ∧ t = t₁ ++ t₂ ∧
      (r.read room).Trace t₁ (result, r₁) ∧ (readEach rooms r₁).Trace t₂ (later, r') := by
  simp only [readEach, Job.bind_eq, Job.trace_bind, Job.pure_eq, Job.trace_done, Prod.mk.injEq] at run
  obtain ⟨⟨result, r₁⟩, t₁, _, rfl, first, ⟨later, _⟩, t₂, _, rfl, others, rfl, rfl, rfl⟩ := run
  exact ⟨result, later, r₁, t₁, t₂, rfl, by rw [List.append_nil], first, others⟩

theorem readEach_mem (tracks : Tracks object r) (roomy : ∀ room ∈ rooms, 0 < room)
    (run : (readEach rooms r).Trace t (results, r')) (serves : ∀ x ∈ t, Serves r.location object x) :
    ∀ x ∈ results, (∃ out, x = .ok out ∧ (r.length ≤ r.bytesRead ∨ 0 < r.available object)) ∨
      ∃ e, x = .error e ∧ ((∃ y ∈ t, fault? y = some e) ∨
        r.available object = 0 ∧ e = .shortRead r.length r.bytesRead) := by
  induction rooms generalizing r t results with
  | nil =>
    simp only [readEach, Job.pure_eq, Job.trace_done, Prod.mk.injEq] at run
    simp [run.2.1]
  | cons room rooms ih =>
    simp only [readEach, Job.bind_eq, Job.trace_bind, Job.pure_eq, Job.trace_done, Prod.mk.injEq] at run
    obtain ⟨⟨result, r₁⟩, t₁, _, rfl, first, ⟨later, _⟩, t₂, _, rfl, others, rfl, rfl, rfl⟩ := run
    rw [List.append_nil] at serves ⊢
    have roomy₂ := fun room h => roomy room (List.mem_cons_of_mem _ h)
    have serves₂ := fun x hx => serves x (List.mem_append_right t₁ hx)
    intro x hx
    rcases read_trace tracks first fun x hx => serves x (List.mem_append_left t₂ hx) with
      ⟨out, rfl, h⟩ | ⟨e, rfl, h⟩
    · have hpos := h.pos (roomy room (List.mem_cons_self ..))
      rcases List.mem_cons.mp hx with rfl | hx
      · exact Or.inl ⟨out, rfl, by omega⟩
      · have hread := h.bytesRead
        have hle := h.le
        rcases ih h.tracks roomy₂ others (by rwa [h.continues.location]) x hx with ⟨out₂, rfl, how⟩ | ⟨e, rfl, how⟩
        · rw [h.continues.length, h.continues.available] at how
          exact Or.inl ⟨out₂, rfl, by omega⟩
        · refine Or.inr ⟨e, rfl, ?_⟩
          rcases how with ⟨y, hy, fault⟩ | ⟨absent, rfl⟩
          · exact Or.inl ⟨y, List.mem_append_right _ hy, fault⟩
          · rw [h.continues.available] at absent
            have hsame : r₁.bytesRead = r.bytesRead := by omega
            exact Or.inr ⟨absent, by rw [h.continues.length, hsame]⟩
    · rcases List.mem_cons.mp hx with rfl | hx
      · refine Or.inr ⟨e, rfl, h.cause.imp_left ?_⟩
        rintro ⟨y, hy, fault⟩
        exact ⟨y, List.mem_append_left _ hy, fault⟩
      · have := ih h.tracks roomy₂ others (by rwa [h.continues.location]) x hx
        rw [h.continues.length, h.continues.available, h.bytesRead] at this
        refine this.imp_right ?_
        rintro ⟨e, rfl, ⟨y, hy, fault⟩ | short⟩
        · exact ⟨e, rfl, Or.inl ⟨y, List.mem_append_right _ hy, fault⟩⟩
        · exact ⟨e, rfl, Or.inr short⟩

/-- What a caller gets who expects some bytes of a range of an object. -/
def announced (object : Bytes) (start stop length : Nat) : List UInt8 :=
  (List.range length).map fun i => object[start + i % (min object.size (stop + 1) - start)]!

/-- Whether a read failed in a fetch that the source answered with a failure. -/
def FailedFetch (t : List Exchange) (result : Except TransferError Bytes) : Prop :=
  ∃ location offset limit cause,
    ⟨.fetchChunk location offset limit, some (.error cause)⟩ ∈ t ∧
      result = .error (fetchFailure cause)

theorem length_announced (object : Bytes) (start stop length : Nat) :
    (announced object start stop length).length = length := by
  rw [announced, List.length_map, List.length_range]

theorem announced_eq_extract {object : Bytes} {start stop : Nat} (ordered : start ≤ stop)
    (all : stop < object.size) :
    announced object start stop (stop - start + 1) = (object.extract start (stop + 1)).data.toList := by
  have hstop : stop + 1 = start + (stop - start + 1) := by omega
  rw [announced, map_range_eq_extract (by omega) (by omega), ← hstop]

theorem stretch_eq_announced (r : Reader) (object : Bytes) (count : Nat) :
    r.stretch object 0 count = announced object r.start r.stop count := by
  rw [announced, List.range_eq_range']
  rfl

theorem Answers.failedFetch {location : String} {e : TransferError} (answers : ∀ x ∈ t, Answers location object x)
    (fault : ∃ x ∈ t, fault? x = some e) : FailedFetch t (.error e) := by
  obtain ⟨x, hx, fault⟩ := fault
  obtain ⟨location, offset, limit, cause, rfl, rfl⟩ := (answers x hx).fault fault
  exact ⟨location, offset, limit, cause, hx, rfl⟩

theorem readEach_of_new (tracks : Tracks object r) (new : r.bytesRead = 0)
    (roomy : ∀ room ∈ rooms, 0 < room) (run : (readEach rooms r).Trace t (results, r'))
    (answers : ∀ x ∈ t, Answers r.location object x) :
    (0 < r.available object →
      given results <+: announced object r.start r.stop r.length ∧
      (r.length + faults t ≤ rooms.length →
        given results = announced object r.start r.stop r.length) ∧
      (∀ before later, results = before ++ later →
        given before = announced object r.start r.stop r.length →
        ∀ x ∈ later, x = .ok ByteArray.empty) ∧
      ∀ x ∈ results, (∃ out, x = .ok out) ∨ FailedFetch t x) ∧
    (r.available object = 0 → 0 < r.length →
      ∀ x ∈ results, FailedFetch t x ∨ x = .error (.shortRead r.length 0)) := by
  have serves := fun x hx => (answers x hx).serves
  have each := readEach_mem tracks roomy run serves
  rw [new] at each
  refine ⟨fun present => ?_, fun absent more x hx => ?_⟩
  · obtain ⟨-, hbytes, hread, hend, hmany⟩ :=
      readEach_trace tracks present (by omega) roomy run serves
    rw [new, Nat.zero_add] at hread
    rw [new, stretch_eq_announced] at hbytes
    refine ⟨?_, fun enough => ?_, ?_, fun x hx => ?_⟩
    · refine ⟨r.stretch object (given results).length (r.length - (given results).length), ?_⟩
      have h := stretch_append r object 0 (given results).length (r.length - (given results).length)
      rwa [Nat.zero_add, Nat.add_sub_cancel' (by omega), stretch_eq_announced, stretch_eq_announced,
        ← hbytes] at h
    · rw [hbytes]
      congr 1
      omega
    · -- The first reads alone have given out all, so that the others begin at the end.
      rintro before later rfl all
      obtain ⟨rooms₁, rooms₂, t₁, t₂, r₁, rfl, rfl, run₁, run₂⟩ := readEach_append run
      obtain ⟨continues, -, hread₁, -, -⟩ := readEach_trace tracks present (by omega)
        (fun room h => roomy room (List.mem_append_left _ h)) run₁
        fun x hx => serves x (List.mem_append_left _ hx)
      rw [new, Nat.zero_add, all, length_announced] at hread₁
      exact readEach_at_end (Nat.le_of_eq (continues.length.trans hread₁.symm)) run₂
    · rcases each x hx with ⟨out, rfl, -⟩ | ⟨e, rfl, fault | ⟨absent, -⟩⟩
      · exact Or.inl ⟨out, rfl⟩
      · exact Or.inr (Answers.failedFetch answers fault)
      · omega
  · rcases each x hx with ⟨out, rfl, how⟩ | ⟨e, rfl, fault | ⟨-, rfl⟩⟩
    · omega
    · exact Or.inl (Answers.failedFetch answers fault)
    · exact Or.inr rfl

/-- A new reader of a range, with its policy and with when and of what it reports progress. -/
def opened (location : String) (start stop length size : Nat) (policy : RetryPolicy) :
    Option (Nat × Summary) → Reader
  | none => (range location start stop length size).withPolicy policy
  | some (interval, summary) =>
    ((range location start stop length size).withProgress interval summary).withPolicy policy

theorem opened_fields (location : String) (start stop length : Nat) {size : Nat} (policy : RetryPolicy)
    (progress : Option (Nat × Summary)) (positive : 0 < size) :
    let new := opened location start stop length size policy progress
    (new.location = location ∧ new.start = start ∧ new.stop = stop ∧ new.length = length ∧
      new.chunkSize = size ∧ new.policy = policy) ∧
    new.parts = .cover start stop size ∧ new.buffer.size = 0 ∧ new.bytesRead = 0 := by
  have same : max size 1 = size := Nat.max_eq_left positive
  cases progress <;>
    exact ⟨⟨rfl, rfl, rfl, rfl, same, rfl⟩, congrArg (Parts.cover start stop) same, rfl, rfl⟩

/-- Whoever reads a range, and reads on after a failure, gets the announced number of bytes, and they
are those of the range, over and over where the object is shorter. Where the object has none of the
range every read fails, as a short read unless the fetch failed. -/
theorem reads_give_range (object : Bytes) (location : String) {start stop : Nat} (length size : Nat)
    (policy : RetryPolicy) (progress : Option (Nat × Summary)) (ordered : start ≤ stop)
    (roomy : ∀ room ∈ rooms, 0 < room) :
    let reads := readEach rooms (opened location start stop length size policy progress)
    let avail := min object.size (stop + 1) - start
    let expected := announced object start stop length
    (∃ t results r', reads.Trace t (results, r') ∧ ∀ x ∈ t, Answers location object x) ∧
    (stop < object.size → length = stop - start + 1 →
      expected = (object.extract start (stop + 1)).data.toList) ∧
    ∀ t results r', reads.Trace t (results, r') → (∀ x ∈ t, Answers location object x) →
      (0 < avail →
        given results <+: expected ∧
        (length + faults t ≤ rooms.length → given results = expected) ∧
        (∀ before later, results = before ++ later → given before = expected →
          ∀ x ∈ later, x = .ok ByteArray.empty) ∧
        ∀ x ∈ results, (∃ out, x = .ok out) ∨ FailedFetch t x) ∧
      (avail = 0 → 0 < length →
        ∀ x ∈ results, FailedFetch t x ∨ x = .error (.shortRead length 0)) := by
  intro reads avail expected
  refine ⟨?_, ?_, ?_⟩
  · obtain ⟨t, ⟨results, r'⟩, run, answers⟩ := Job.exists_trace_forall (exists_answer location object) reads
    exact ⟨t, results, r', run, answers⟩
  · rintro all rfl
    exact announced_eq_extract ordered all
  · intro t results r' run answers
    have tracks : Tracks object (opened location start stop length size policy progress) := by
      cases progress <;>
        exact tracks_of_new object (Nat.le_max_right ..) ordered rfl rfl rfl
    cases progress <;> exact readEach_of_new tracks rfl roomy run answers

/-- Three bytes of which five are announced from the second on. -/
theorem reads_give_range_again : 1 ≤ 4 ∧ (∀ room ∈ [3, 1, 2, 1, 1], 0 < room) ∧
    ∀ t results r', (readEach [3, 1, 2, 1, 1] (opened "doc" 1 4 5 2 .none none)).Trace t (results, r') →
      (∀ x ∈ t, Answers "doc" ⟨#[10, 11, 12]⟩ x) → faults t = 0 → given results = [11, 12, 11, 12, 11] := by
  refine ⟨by decide, by decide, fun t results r' run answers sound => ?_⟩
  have h := (reads_give_range ⟨#[10, 11, 12]⟩ "doc" 5 2 .none none (by decide) (by decide)).2.2
    t results r' run answers
  have expected : announced ⟨#[10, 11, 12]⟩ 1 4 5 = [11, 12, 11, 12, 11] := by decide
  rw [← expected]
  exact (h.1 (by decide)).2.1 (by rw [sound]; decide)

end Courier.Reader
