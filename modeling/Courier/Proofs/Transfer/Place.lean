import Courier.Proofs.Transfer.Parts

/-! The place of a reader in its range. What it has given out is the range from its start on, over and
over, and what its buffer still holds is the stretch that comes next. -/
namespace Courier.Reader

open Parts (ending)

/-- Bytes of the range that an object has. -/
def available (r : Reader) (object : Bytes) : Nat :=
  ending object r.stop - r.start

/-- The byte that a reader of an object gives out at a place. -/
def byteAt (r : Reader) (object : Bytes) (i : Nat) : UInt8 :=
  object[r.start + i % r.available object]!

/-- The bytes that a reader of an object gives out from one place on. -/
def stretch (r : Reader) (object : Bytes) (place count : Nat) : List UInt8 :=
  (List.range' place count).map (r.byteAt object)

theorem length_stretch (r : Reader) (object : Bytes) (place count : Nat) :
    (r.stretch object place count).length = count := by
  rw [stretch, List.length_map, List.length_range']

theorem stretch_append (r : Reader) (object : Bytes) (place m n : Nat) :
    r.stretch object place m ++ r.stretch object (place + m) n = r.stretch object place (m + n) := by
  rw [stretch, stretch, ← List.map_append, List.range'_append_1, stretch]

theorem map_range_eq_extract {object : Bytes} {start period count : Nat} (once : count ≤ period)
    (fits : count ≤ object.size - start) :
    (List.range count).map (fun i => object[start + i % period]!) =
      (object.extract start (start + count)).data.toList := by
  have hsize : (object.extract start (start + count)).data.toList.length = count := by
    rw [Array.length_toList, ByteArray.size_data, ByteArray.size_extract]
    omega
  apply List.ext_getElem
  · rw [hsize, List.length_map, List.length_range]
  · intro i _ hi
    rw [hsize] at hi
    have hmod : i % period = i := Nat.mod_eq_of_lt (by omega)
    simp only [List.getElem_map, List.getElem_range, hmod, Array.getElem_toList,
      ← ByteArray.getElem_eq_getElem_data, ByteArray.getElem_extract]
    rw [getElem!_pos]

def left (r : Reader) : Nat :=
  r.buffer.size - r.cursor

/-- Where the stretches of some parts of a reader's range end. -/
def reach (r : Reader) (object : Bytes) (taken : Nat) : Nat :=
  Parts.reach object r.start r.stop r.chunkSize taken

theorem start_le_reach (r : Reader) (object : Bytes) (taken : Nat) : r.start ≤ r.reach object taken :=
  Parts.le_reach ..

theorem reach_le (r : Reader) (object : Bytes) (taken : Nat) :
    r.reach object taken ≤ max r.start (ending object r.stop) :=
  Parts.reach_le ..

theorem reach_zero (r : Reader) (object : Bytes) : r.reach object 0 = r.start :=
  Parts.reach_zero ..

/-- What reading does not change. -/
structure Continues (r r' : Reader) : Prop where
  location : r'.location = r.location
  start : r'.start = r.start
  stop : r'.stop = r.stop
  length : r'.length = r.length
  chunkSize : r'.chunkSize = r.chunkSize

theorem Continues.trans {r₁ r₂ r₃ : Reader} (h₁ : Continues r₁ r₂) (h₂ : Continues r₂ r₃) :
    Continues r₁ r₃ :=
  ⟨h₂.location.trans h₁.location, h₂.start.trans h₁.start, h₂.stop.trans h₁.stop,
    h₂.length.trans h₁.length, h₂.chunkSize.trans h₁.chunkSize⟩

theorem Continues.available {r r' : Reader} (h : Continues r r') (object : Bytes) :
    r'.available object = r.available object := by
  rw [Reader.available, Reader.available, h.start, h.stop]

theorem Continues.stretch {r r' : Reader} (h : Continues r r') (object : Bytes) (place count : Nat) :
    r'.stretch object place count = r.stretch object place count := by
  have hbyte : r'.byteAt object = r.byteAt object := by
    funext i
    rw [byteAt, byteAt, h.available, h.start]
  rw [Reader.stretch, Reader.stretch, hbyte]

/-- A reader that fetches what comes after some parts of its range. -/
structure Aligned (r : Reader) (taken : Nat) : Prop where
  positive : 0 < r.chunkSize
  ordered : r.start ≤ r.stop
  within : taken ≤ (Parts.cover r.start r.stop r.chunkSize).count
  parts : r.parts = .after r.start r.stop r.chunkSize taken

theorem Aligned.restart {r : Reader} {taken : Nat} (h : Aligned r taken) : Aligned r.restart 0 :=
  ⟨h.positive, h.ordered, Nat.zero_le _, Parts.cover_eq_after ..⟩

/-- A reader that has taken some parts of its range after going over it some times. What is left in
its buffer ends where these parts end, and it has given out all that comes before. -/
structure At (object : Bytes) (r : Reader) (taken rounds : Nat) : Prop extends Aligned r taken where
  filled : r.buffer.extract r.cursor r.buffer.size =
    object.extract (r.reach object taken - r.left) (r.reach object taken)
  left_le : r.start + r.left ≤ r.reach object taken
  counted : r.bytesRead + r.left =
    rounds * r.available object + (r.reach object taken - r.start)

/-- A reader that is somewhere in its range. -/
def Tracks (object : Bytes) (r : Reader) : Prop :=
  ∃ taken rounds, At object r taken rounds

variable {object : Bytes} {r : Reader} {taken rounds : Nat}

/-- A reader with nothing left in its buffer has given out all up to where its parts end. -/
theorem Aligned.at_of_used (aligned : Aligned r taken) (used : r.left = 0)
    (counted : r.bytesRead = rounds * r.available object + (r.reach object taken - r.start)) :
    At object r taken rounds := by
  refine ⟨aligned, ?_, ?_, ?_⟩
  · rw [used, Nat.sub_zero, ByteArray.extract_same, ByteArray.extract_eq_empty_iff]
    unfold left at used
    omega
  · rw [used]
    exact r.start_le_reach object taken
  · rw [used]
    exact counted

theorem Aligned.at_of_part {taken' : Nat} (aligned : Aligned r taken') (cursor : r.cursor = 0)
    (part : r.buffer = object.extract (r.reach object taken) (r.reach object taken'))
    (filled : r.buffer.size ≠ 0)
    (counted : r.bytesRead = rounds * r.available object + (r.reach object taken - r.start)) :
    At object r taken' rounds ∧ 0 < r.left := by
  have hstart := r.start_le_reach object taken
  have hreach := r.reach_le object taken'
  have hleft : r.left = r.buffer.size := by rw [left, cursor, Nat.sub_zero]
  have hsize : r.left = r.reach object taken' - r.reach object taken ∧
      r.reach object taken ≤ r.reach object taken' := by
    rw [← hleft] at filled
    rw [hleft, part, ByteArray.size_extract] at filled ⊢
    unfold ending at hreach
    omega
  refine ⟨⟨aligned, ?_, by omega, by omega⟩, by omega⟩
  have hplace : r.reach object taken' - r.left = r.reach object taken := by omega
  rw [cursor, ByteArray.extract_zero_size, hplace, part]

theorem tracks_of_new (object : Bytes) (positive : 0 < r.chunkSize) (ordered : r.start ≤ r.stop)
    (parts : r.parts = .cover r.start r.stop r.chunkSize) (buffer : r.buffer.size = 0)
    (bytesRead : r.bytesRead = 0) : Tracks object r := by
  have aligned : Aligned r 0 :=
    ⟨positive, ordered, Nat.zero_le _, by rw [parts, Parts.cover_eq_after]⟩
  refine ⟨0, 0, aligned.at_of_used ?_ ?_⟩
  · rw [left, buffer, Nat.zero_sub]
  · rw [bytesRead, reach_zero, Nat.zero_mul, Nat.sub_self]

theorem At.extract_buffer (place : At object r taken rounds) (i : Nat) {j : Nat} (hj : j ≤ r.left) :
    r.buffer.extract (r.cursor + i) (r.cursor + j) =
      object.extract (r.reach object taken - r.left + i) (r.reach object taken - r.left + j) := by
  have hr := place.left_le
  have hbuffer : r.buffer.extract (r.cursor + i) (r.cursor + j) =
      (r.buffer.extract r.cursor r.buffer.size).extract i j := by
    rw [ByteArray.extract_extract]
    unfold left at hj
    apply extract_congr <;> omega
  rw [hbuffer, place.filled, ByteArray.extract_extract, Nat.min_eq_left (by omega)]

theorem At.toList_extract (place : At object r taken rounds) {n : Nat} (hn : n ≤ r.left) :
    (r.buffer.extract r.cursor (r.cursor + n)).data.toList = r.stretch object r.bytesRead n := by
  have hreach := r.reach_le object taken
  have hleft := place.left_le
  have hcounted := place.counted
  -- Within its round the reader is `here`, and a read does not go beyond the round.
  obtain ⟨here, hhere⟩ : ∃ here, r.reach object taken - r.left = r.start + here :=
    Nat.exists_eq_add_of_le (by omega)
  have hread : r.bytesRead = rounds * r.available object + here := by omega
  have hin : n = 0 ∨ r.start + here + n ≤ object.size ∧ here + n ≤ r.available object := by
    unfold available
    unfold ending at *
    omega
  have hout := place.extract_buffer 0 hn
  rw [hhere, Nat.add_zero, Nat.add_zero] at hout
  have hsize : (object.extract (r.start + here) (r.start + here + n)).data.toList.length = n := by
    rw [Array.length_toList, ByteArray.size_data, ByteArray.size_extract]
    omega
  rw [hout]
  apply List.ext_getElem
  · rw [hsize, length_stretch]
  · intro i hi _
    rw [hsize] at hi
    have hplace : (r.bytesRead + i) % r.available object = here + i := by
      rw [hread, Nat.add_assoc, Nat.mul_add_mod', Nat.mod_eq_of_lt (by omega)]
    simp only [stretch, List.getElem_map, List.getElem_range', Nat.one_mul, byteAt, hplace,
      Array.getElem_toList, ← ByteArray.getElem_eq_getElem_data, ByteArray.getElem_extract,
      ← Nat.add_assoc]
    rw [getElem!_pos]

theorem At.available_pos (place : At object r taken rounds) (unread : 0 < r.left) :
    0 < r.available object := by
  have hreach := r.reach_le object taken
  have hleft := place.left_le
  unfold available
  omega

theorem At.advance (place : At object r taken rounds) {n : Nat} (hn : n ≤ r.left)
    (progress : Option (Throttle × Summary)) :
    At object { r with cursor := r.cursor + n, bytesRead := r.bytesRead + n, progress } taken rounds := by
  have hleft : r.buffer.size - (r.cursor + n) = r.left - n := by
    unfold left
    omega
  have hrest : r.buffer.extract (r.cursor + n) r.buffer.size =
      r.buffer.extract (r.cursor + n) (r.cursor + r.left) := by
    unfold left at hn ⊢
    apply extract_congr <;> omega
  have hle := place.left_le
  refine ⟨⟨place.positive, place.ordered, place.within, place.parts⟩, ?_, ?_, ?_⟩
  · show r.buffer.extract (r.cursor + n) r.buffer.size = object.extract
      (r.reach object taken - (r.buffer.size - (r.cursor + n))) (r.reach object taken)
    have hfrom : r.reach object taken - r.left + n = r.reach object taken - (r.left - n) := by omega
    have hto : r.reach object taken - r.left + r.left = r.reach object taken := by omega
    rw [hrest, place.extract_buffer n (Nat.le_refl _), hleft, hfrom, hto]
  · show r.start + (r.buffer.size - (r.cursor + n)) ≤ r.reach object taken
    omega
  · show r.bytesRead + n + (r.buffer.size - (r.cursor + n)) =
      rounds * r.available object + (r.reach object taken - r.start)
    have := place.counted
    omega

end Courier.Reader
