import Courier.Proofs.Retry.Calls
import Courier.Proofs.Transfer.AnySource

/-! Fetches of chunks one after another. While the task is not canceled each call of the source either
fails, and is made again as often as the policy allows, or gives the chunk. -/
namespace Courier.Reader

variable {object : Bytes} {location : String} {size stop : Nat} {k k' m : Nat}
  {t t₁ t₂ : List Exchange}

def asked (t : List Exchange) : List Request :=
  (t.filter isFetch).map Sigma.fst

/-- Whether an exchange is a failed fetch of the chunk at an offset. -/
def failsAt (offset : Nat) : Exchange → Bool
  | ⟨.fetchChunk _ place _, some (.error _)⟩ => place == offset
  | _ => false

/-- Failed fetches of the chunk at an offset. -/
def failuresAt (offset : Nat) (t : List Exchange) : Nat :=
  t.countP (failsAt offset)

/-- The requests of some chunks from one on, each of them once more for each of its failures. -/
def inOrder (location : String) (size : Nat) (failures : Nat → Nat) (first count : Nat) : List Request :=
  (List.range' first count).flatMap fun k =>
    List.replicate (failures k + 1) (.fetchChunk location (k * size) size)

theorem failsAt_of_other {x : Exchange} (other : isFetch x = false) (offset : Nat) :
    failsAt offset x = false := by
  unfold failsAt
  split
  · exact absurd other nofun
  · rfl

theorem failuresAt_cons_of_not {offset : Nat} {x : Exchange} (sound : failsAt offset x = false) :
    failuresAt offset (x :: t) = failuresAt offset t :=
  List.countP_cons_of_neg (by rw [sound]; exact Bool.false_ne_true)

theorem failuresAt_le_faults (offset : Nat) (t : List Exchange) : failuresAt offset t ≤ faults t := by
  refine List.countP_mono_left fun x _ fails => ?_
  unfold failsAt at fails
  split at fails
  · rfl
  · exact absurd fails nofun

theorem inOrder_succ (location : String) (size : Nat) (failures : Nat → Nat) (first count : Nat) :
    inOrder location size failures first (count + 1) =
      List.replicate (failures first + 1) (.fetchChunk location (first * size) size) ++
        inOrder location size failures (first + 1) count := by
  rw [inOrder, List.range'_succ, List.flatMap_cons, inOrder]

theorem inOrder_congr {f g : Nat → Nat} {first count : Nat} (same : ∀ k, first ≤ k → f k = g k) :
    inOrder location size f first count = inOrder location size g first count := by
  induction count generalizing first with
  | zero => rfl
  | succ count ih =>
    rw [inOrder_succ, inOrder_succ, same first (Nat.le_refl _),
      ih fun k hk => same k (Nat.le_of_succ_le hk)]

theorem length_inOrder_of_sound {failures : Nat → Nat} {first count : Nat}
    (sound : ∀ k, failures k = 0) : (inOrder location size failures first count).length = count := by
  induction count generalizing first with
  | zero => rfl
  | succ count ih =>
    rw [inOrder_succ, List.length_append, ih, sound, List.length_replicate, Nat.add_comm]

/-- Fetches of chunks one after another, up to the one with the last byte: one that fails is made again,
and one that does not is followed by that of the next chunk. -/
inductive Fetching (location : String) (size stop : Nat) : Nat → List Exchange → Nat → Prop where
  | none (k : Nat) : Fetching location size stop k [] k
  | other {k k' : Nat} {x : Exchange} {t : List Exchange} (other : isFetch x = false)
      (rest : Fetching location size stop k t k') : Fetching location size stop k (x :: t) k'
  | failed {k k' : Nat} {cause : CallError} {t : List Exchange} (within : k * size ≤ stop)
      (rest : Fetching location size stop k t k') : Fetching location size stop k
        (⟨.fetchChunk location (k * size) size, some (.error cause)⟩ :: t) k'
  | got {k k' : Nat} {bytes : Bytes} {t : List Exchange} (within : k * size ≤ stop)
      (rest : Fetching location size stop (k + 1) t k') : Fetching location size stop k
        (⟨.fetchChunk location (k * size) size, some (.ok bytes)⟩ :: t) k'

namespace Fetching

theorem append (first : Fetching location size stop k t₁ m)
    (second : Fetching location size stop m t₂ k') : Fetching location size stop k (t₁ ++ t₂) k' := by
  induction first with
  | none k => exact second
  | other other _ ih => exact .other other (ih second)
  | failed within _ ih => exact .failed within (ih second)
  | got within _ ih => exact .got within (ih second)

theorem of_others (others : ∀ x ∈ t, isFetch x = false) : Fetching location size stop k t k := by
  induction t with
  | nil => exact .none k
  | cons x t ih =>
    obtain ⟨other, others⟩ := List.forall_mem_cons.mp others
    exact .other other (ih others)

theorem le (fetching : Fetching location size stop k t k') : k ≤ k' := by
  induction fetching with
  | none k => exact Nat.le_refl k
  | other _ _ ih | failed _ _ ih => exact ih
  | got _ _ ih => exact Nat.le_of_succ_le ih

theorem failuresAt_eq_zero {j : Nat} (positive : 0 < size)
    (fetching : Fetching location size stop k t k') (apart : j < k ∨ stop < j * size) :
    failuresAt (j * size) t = 0 := by
  induction fetching with
  | none k => rfl
  | other other _ ih =>
    rw [failuresAt_cons_of_not (failsAt_of_other other _)]
    exact ih apart
  | @failed k k' cause t within _ ih =>
    have elsewhere : k * size ≠ j * size := by
      rcases apart with before | after
      · exact Nat.ne_of_gt (Nat.mul_lt_mul_of_pos_right before positive)
      · omega
    have sound : failsAt (j * size) ⟨.fetchChunk location (k * size) size, some (.error cause)⟩ = false :=
      beq_false_of_ne elsewhere
    rw [failuresAt_cons_of_not sound]
    exact ih apart
  | got within _ ih =>
    rw [failuresAt_cons_of_not rfl]
    exact ih (apart.imp_left Nat.lt_succ_of_lt)

/-- The chunks that came are asked for once and once more for each of their failures, and after them the
next one as often as it failed. -/
theorem asked_eq (positive : 0 < size) (fetching : Fetching location size stop k t k') :
    asked t = inOrder location size (fun j => failuresAt (j * size) t) k (k' - k) ++
      List.replicate (failuresAt (k' * size) t) (.fetchChunk location (k' * size) size) := by
  induction fetching with
  | none k =>
    rw [Nat.sub_self]
    rfl
  | @other k k' x t other _ ih =>
    have same (offset : Nat) : failuresAt offset (x :: t) = failuresAt offset t :=
      failuresAt_cons_of_not (failsAt_of_other other offset)
    simp only [same]
    rw [← ih, asked, List.filter_cons_of_neg (by rw [other]; exact nofun), asked]
  | @failed k k' cause t within rest ih =>
    let x : Exchange := ⟨.fetchChunk location (k * size) size, some (.error cause)⟩
    have again : failuresAt (k * size) (x :: t) = failuresAt (k * size) t + 1 :=
      List.countP_cons_of_pos (beq_self_eq_true _)
    have others (j : Nat) (apart : j ≠ k) : failuresAt (j * size) (x :: t) = failuresAt (j * size) t := by
      refine failuresAt_cons_of_not (beq_false_of_ne fun same => apart ?_)
      exact (Nat.eq_of_mul_eq_mul_right positive same).symm
    have first : asked (x :: t) = .fetchChunk location (k * size) size :: asked t := rfl
    rw [first, ih]
    rcases Nat.eq_or_lt_of_le rest.le with rfl | less
    · rw [again, Nat.sub_self]
      rfl
    · obtain ⟨count, rfl⟩ := Nat.exists_eq_add_of_lt less
      have more : k + count + 1 - k = count + 1 := by omega
      rw [more, inOrder_succ, inOrder_succ, again, others (k + count + 1) (by omega),
        inOrder_congr fun j hj => others j (by omega)]
      rfl
  | @got k k' bytes t within rest ih =>
    -- This is the last request of this chunk, which does not fail later on.
    have same (offset : Nat) : failuresAt offset
        (⟨.fetchChunk location (k * size) size, some (.ok bytes)⟩ :: t) = failuresAt offset t :=
      failuresAt_cons_of_not rfl
    have sound : failuresAt (k * size) t = 0 :=
      rest.failuresAt_eq_zero positive (Or.inl (Nat.lt_succ_self k))
    obtain ⟨count, rfl⟩ := Nat.exists_eq_add_of_le rest.le
    have more : k + 1 + count - k = count + 1 := by omega
    have fewer : k + 1 + count - (k + 1) = count := by omega
    have first : asked (⟨.fetchChunk location (k * size) size, some (.ok bytes)⟩ :: t) =
      .fetchChunk location (k * size) size :: asked t := rfl
    simp only [same]
    rw [first, ih, more, fewer, inOrder_succ, sound]
    rfl

/-- When the chunk with the last byte has come nothing more is asked for. -/
theorem asked_of_all (positive : 0 < size)
    (fetching : Fetching location size stop k t (stop / size + 1)) :
    asked t = inOrder location size (fun j => failuresAt (j * size) t) k (stop / size + 1 - k) := by
  have beyond : stop < (stop / size + 1) * size := Nat.lt_mul_of_div_lt (Nat.lt_succ_self _) positive
  rw [fetching.asked_eq positive, fetching.failuresAt_eq_zero positive (Or.inr beyond),
    List.replicate_zero, List.append_nil]

end Fetching

/-- Whether so many fetches were made on the way and all of them failed. -/
def AllFail (count : Nat) (t : List Exchange) : Prop :=
  (t.filter isFetch).length = count ∧ ∀ x ∈ t.filter isFetch, (fault? x).isSome = true

/-- An attempt of a request: a call of the source for the chunk. -/
abbrev fetchOnce (location : String) (offset limit : Nat) : Job (Except CallError Bytes) := do
  return orCanceled (← Job.request (.fetchChunk location offset limit))

theorem fetchOnce_trace {offset limit : Nat} {outcome : Except CallError Bytes}
    (run : (fetchOnce location offset limit).Trace t outcome)
    (answers : ∀ x ∈ t, Answers location object x) :
    t = [⟨.fetchChunk location offset limit, some outcome⟩] := by
  obtain ⟨reply, fetched, rfl⟩ := attempt_trace run
  obtain rfl := request_trace_iff.mp fetched
  rcases answers _ List.mem_cons_self with ⟨cause, rfl⟩ | ⟨bytes, rfl, -⟩ <;> rfl

theorem failures_fetching {number n : Nat} (within : k * size ≤ stop)
    (failures : Failures (fun _ => fetchOnce location (k * size) size) number n t)
    (answers : ∀ x ∈ t, Answers location object x) :
    Fetching location size stop k t k ∧ ∃ made, number + made = n ∧ AllFail made t := by
  induction failures with
  | none n => exact ⟨.none k, 0, rfl, rfl, List.forall_mem_nil _⟩
  | @more number n t rest e failed _ ih =>
    obtain ⟨-, answers⟩ := List.forall_mem_cons.mp answers
    obtain ⟨answers₁, answers₂⟩ := List.forall_mem_append.mp answers
    obtain rfl := fetchOnce_trace failed answers₁
    obtain ⟨fetching, made, many, length, bad⟩ := ih answers₂
    exact ⟨.other rfl (.failed within fetching), made + 1, by omega, congrArg Nat.succ length,
      List.forall_mem_cons.mpr ⟨rfl, bad⟩⟩

/-- A request comes to the chunk or has failed as often as the policy has attempts. -/
theorem requestChunk_fetching {r : Reader} {result : Except TransferError Bytes}
    (within : k * r.chunkSize ≤ stop) (run : (r.requestChunk (k * r.chunkSize)).Trace t result)
    (answers : ∀ x ∈ t, Answers r.location object x) :
    (result = .ok (object.extract (k * r.chunkSize) (k * r.chunkSize + r.chunkSize)) ∧
      Fetching r.location r.chunkSize stop k t (k + 1)) ∨
    (∃ e, result = .error e) ∧ Fetching r.location r.chunkSize stop k t k ∧
      AllFail r.policy.attempts t := by
  obtain ⟨outcome, tried, told⟩ := fetchWithRetry_trace_iff.mp run
  obtain ⟨n, front, last, rfl, failures, ends, -, spent⟩ := withRetry_trace tried
  obtain ⟨answers₁, answers₂⟩ := List.forall_mem_append.mp answers
  obtain ⟨fetching, made, many, length, bad⟩ := failures_fetching within failures answers₁
  rcases outcome with (_ | ⟨all, e⟩) | bytes
  · -- The task is not canceled.
    obtain ⟨-, rfl⟩ := ends
    exact absurd (answers₂ _ List.mem_cons_self) nofun
  · obtain ⟨rfl, last, rfl, failed⟩ := ends
    obtain ⟨-, answers₂⟩ := List.forall_mem_cons.mp answers₂
    obtain rfl := fetchOnce_trace failed answers₂
    refine Or.inr ⟨?_, fetching.append (.other rfl (.failed within (.none k))), ?_, ?_⟩
    · cases told <;> exact ⟨_, rfl⟩
    · rw [List.filter_append, List.length_append, length, ← spent _ e rfl, ← many, Nat.zero_add]
      rfl
    · rw [List.filter_append]
      exact List.forall_mem_append.mpr ⟨bad, List.forall_mem_singleton.mpr rfl⟩
  · obtain ⟨last, rfl, gave⟩ := ends
    obtain ⟨-, answers₂⟩ := List.forall_mem_cons.mp answers₂
    obtain rfl := fetchOnce_trace gave answers₂
    have genuine : bytes = object.extract (k * r.chunkSize) (k * r.chunkSize + r.chunkSize) :=
      (answers₂ _ List.mem_cons_self).serves rfl
    cases told
    exact Or.inl ⟨congrArg Except.ok genuine,
      fetching.append (.other rfl (.got within (.none (k + 1))))⟩

/-- Whether fewer fetches than that failed one after another wherever some did. -/
def Absorbed (attempts : Nat) (t : List Exchange) : Prop :=
  ∀ row, row <:+: t.filter isFetch → (∀ x ∈ row, (fault? x).isSome = true) → row.length < attempts

section Absorbed

variable {attempts : Nat}

theorem Absorbed.append (absorbed : Absorbed attempts (t₁ ++ t₂)) :
    Absorbed attempts t₁ ∧ Absorbed attempts t₂ := by
  rw [Absorbed, List.filter_append] at absorbed
  constructor
  · exact fun row part => absorbed row (part.trans (List.prefix_append ..).isInfix)
  · exact fun row part => absorbed row (part.trans (List.suffix_append ..).isInfix)

theorem Absorbed.not_allFail (absorbed : Absorbed attempts t) : ¬ AllFail attempts t := by
  rintro ⟨many, bad⟩
  exact absurd many (Nat.ne_of_lt (absorbed _ (List.infix_refl _) bad))

end Absorbed

end Courier.Reader
