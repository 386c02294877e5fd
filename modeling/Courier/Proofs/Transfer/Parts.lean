import Courier.Transfer.Reader

/-! The chunks that cover a range of an object. Taken one after another and trimmed, they are
stretches of the object that go on from where the one before ended. -/
namespace Courier

theorem extract_congr {object : Bytes} {a b c d : Nat}
    (size : min b object.size - a = min d object.size - c) (place : a = c ∨ min b object.size ≤ a) :
    object.extract a b = object.extract c d := by
  apply ByteArray.ext_getElem
  · simp only [ByteArray.size_extract]
    exact size
  · intro i hi hi'
    rw [ByteArray.size_extract] at hi
    have hac : a = c := by omega
    simp only [ByteArray.getElem_extract, hac]

theorem extract_min (bytes : Bytes) (i j : Nat) :
    bytes.extract (min i (min j bytes.size)) (min j bytes.size) = bytes.extract i j := by
  apply extract_congr <;> omega

namespace Parts

variable {start stop size : Nat}

/-- The parts of a range when some of them have been taken. -/
def after (start stop size taken : Nat) : Parts :=
  { cover start stop size with
    current := taken + 1
    offset := start - start % size + taken * size }

theorem cover_eq_after (start stop size : Nat) : cover start stop size = after start stop size 0 := by
  simp [cover, after]

def ending (object : Bytes) (stop : Nat) : Nat :=
  min object.size (stop + 1)

/-- Where the stretches of some parts end. -/
def reach (object : Bytes) (start stop size taken : Nat) : Nat :=
  max start (min (ending object stop) (start - start % size + taken * size))

theorem reach_zero (object : Bytes) (start stop size : Nat) : reach object start stop size 0 = start := by
  unfold reach
  omega

theorem le_reach (object : Bytes) (start stop size taken : Nat) :
    start ≤ reach object start stop size taken :=
  Nat.le_max_left ..

theorem reach_le (object : Bytes) (start stop size taken : Nat) :
    reach object start stop size taken ≤ max start (ending object stop) := by
  unfold reach
  omega

/-- The last part is the one in which the range ends. -/
theorem count_cover (positive : 0 < size) (ordered : start ≤ stop) :
    ∃ full, (cover start stop size).count = full + 1 ∧
      start - start % size + full * size + (cover start stop size).lastCut = stop + 1 ∧
      1 ≤ (cover start stop size).lastCut ∧ (cover start stop size).lastCut ≤ size := by
  have base : start - start % size = start / size * size := by
    have := Nat.div_add_mod' start size
    omega
  have below : start - start % size ≤ stop := Nat.le_trans (Nat.sub_le ..) ordered
  refine ⟨(stop - (start - start % size)) / size, Nat.add_div_right _ positive, ?_, Nat.succ_pos _, ?_⟩
  · have hs : start / size * size + (stop - (start - start % size)) = stop := by omega
    have hm : stop % size = (stop - (start - start % size)) % size := by
      calc stop % size = (start / size * size + (stop - (start - start % size))) % size := by rw [hs]
        _ = (stop - (start - start % size)) % size := Nat.mul_add_mod' ..
    have := Nat.div_add_mod' (stop - (start - start % size)) size
    simp only [cover]
    omega
  · exact Nat.mod_lt stop positive

theorem pending?_after (start stop size taken : Nat) :
    (after start stop size taken).pending? =
      if taken < (cover start stop size).count then some (start - start % size + taken * size)
      else none := by
  simp only [pending?, after]
  rfl

theorem reach_count (object : Bytes) (positive : 0 < size) (ordered : start ≤ stop) :
    reach object start stop size (cover start stop size).count = max start (ending object stop) := by
  obtain ⟨full, hc, hl, -, hs⟩ := count_cover positive ordered
  rw [hc]
  unfold reach ending
  rw [Nat.succ_mul]
  omega

/-- What is kept of a chunk: what lies in the range. -/
theorem trim_after {object : Bytes} {taken base : Nat} (positive : 0 < size) (ordered : start ≤ stop)
    (more : taken < (cover start stop size).count)
    (place : base = start - start % size + taken * size) :
    (after start stop size taken).trim (object.extract base (base + size)) =
      object.extract (max start base) (min (stop + 1) (base + size)) := by
  obtain ⟨full, hc, hl, hpos, hs⟩ := count_cover positive ordered
  have hcut : (cover start stop size).firstCut = start - (start - start % size) := rfl
  have hsize : (object.extract base (base + size)).size ≤ size := by
    rw [ByteArray.size_extract]
    omega
  simp only [trim, after, hc]
  -- The first part may be cut at its front, the last one at its end, and an only part at both.
  by_cases last : taken = full
  · have hend : stop + 1 = base + (cover start stop size).lastCut := by rw [← hl, place, last]
    by_cases first : taken = 0
    · have hstart : max start base = base + (cover start stop size).firstCut := by
        rw [hcut, place, first, Nat.zero_mul]
        omega
      rw [if_pos (by omega), extract_min, ByteArray.extract_extract, hstart, hend]
    · have hstart : max start base = base := by
        have := Nat.le_mul_of_pos_left size (Nat.pos_of_ne_zero first)
        have := Nat.mod_lt start positive
        omega
      have hkeep := extract_min (object.extract base (base + size)) 0 (cover start stop size).lastCut
      rw [Nat.zero_min] at hkeep
      rw [if_neg (by omega), if_neg (by omega), if_pos (by omega), hkeep, ByteArray.extract_extract,
        hstart, hend, Nat.add_zero]
  · have hend : base + size ≤ stop := by
      have := Nat.mul_le_mul_right size (show taken + 1 ≤ full by omega)
      rw [Nat.succ_mul] at this
      omega
    have hmin : min (stop + 1) (base + size) = base + size := Nat.min_eq_right (by omega)
    rw [if_neg (by omega), hmin]
    by_cases first : taken = 0
    · have hstart : max start base = base + (cover start stop size).firstCut := by
        rw [hcut, place, first, Nat.zero_mul]
        omega
      have hkeep := extract_min (object.extract base (base + size)) (cover start stop size).firstCut size
      rw [Nat.min_eq_right hsize] at hkeep
      rw [if_pos (by omega), hkeep, ByteArray.extract_extract, hstart, Nat.min_self]
    · have hstart : max start base = base := by
        have := Nat.le_mul_of_pos_left size (Nat.pos_of_ne_zero first)
        have := Nat.mod_lt start positive
        omega
      rw [if_neg (by omega), if_neg (by omega), hstart]

/-- The stretch of one more part goes on from where the parts before it ended. -/
theorem extract_reach (object : Bytes) {taken base : Nat} (positive : 0 < size)
    (ordered : start ≤ stop) (place : base = start - start % size + taken * size) :
    object.extract (max start base) (min (stop + 1) (base + size)) =
      object.extract (reach object start stop size taken) (reach object start stop size (taken + 1)) := by
  have hr : reach object start stop size (taken + 1) =
      max start (min (ending object stop) (base + size)) := by
    rw [reach, Nat.succ_mul, place, Nat.add_assoc]
  have hb : start < base + size := by
    have := Nat.mod_lt start positive
    omega
  rw [hr, reach, ← place, ending]
  by_cases h : min object.size (stop + 1) ≤ max start base
  · rw [ByteArray.extract_eq_empty_iff.mpr (by omega), ByteArray.extract_eq_empty_iff.mpr (by omega)]
  · have h₁ : max start (min (min object.size (stop + 1)) base) = max start base := by omega
    have h₂ : max start (min (min object.size (stop + 1)) (base + size)) =
        min object.size (min (stop + 1) (base + size)) := by omega
    rw [h₁, h₂]
    apply extract_congr <;> omega

/-- A chunk of an object, taken, is the stretch that comes next; it is empty only where the range
has ended. -/
theorem take_after (object : Bytes) {taken : Nat} (positive : 0 < size) (ordered : start ≤ stop)
    (more : taken < (cover start stop size).count) :
    ∃ taken' ≤ (cover start stop size).count, ∃ part,
      part = object.extract (reach object start stop size taken) (reach object start stop size taken') ∧
      (part.size = 0 → ending object stop ≤ reach object start stop size taken) ∧
      (after start stop size taken).take (object.extract (start - start % size + taken * size)
        (start - start % size + taken * size + size)) size = (part, after start stop size taken') := by
  obtain ⟨full, hc, hl, hpos, -⟩ := count_cover positive ordered
  generalize hbase : start - start % size + taken * size = base
  have hstop : base ≤ stop := by
    have := Nat.mul_le_mul_right size (show taken ≤ full by omega)
    omega
  have hb : start < base + size := by
    have := Nat.mod_lt start positive
    omega
  unfold take
  by_cases empty : (object.extract base (base + size)).size = 0
  · refine ⟨taken, by omega, _, ?_, ?_, if_pos empty⟩
    · rw [ByteArray.extract_same]
      exact ByteArray.size_eq_zero_iff.mp empty
    · intro
      rw [ByteArray.size_extract] at empty
      unfold reach ending
      omega
  · refine ⟨taken + 1, more, _, extract_reach object positive ordered hbase.symm, ?_, ?_⟩
    · -- The chunk has bytes but none of the range, whose start is beyond the end of the object.
      intro blank
      rw [ByteArray.size_extract] at blank empty
      have hobject : object.size ≤ start := by omega
      have := le_reach object start stop size taken
      unfold ending
      omega
    · rw [if_neg empty, trim_after positive ordered more hbase.symm]
      simp only [advance, after, Nat.succ_mul, Nat.add_assoc]

end Parts

end Courier
