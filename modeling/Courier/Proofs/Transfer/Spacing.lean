import Courier.Proofs.Transfer.Width

/-! Reports of counts that jump. Whatever counts a throttle is told of, those that it reports grow and keep
their distance, and in every state that it comes to the bytes until the next report are counted exactly. -/
namespace Courier.Throttle

/-- Takes note of one count after another. These are the counts that are reported, and the throttle then. -/
def observeEach : List Nat → Throttle → List Nat × Throttle
  | [], t => ([], t)
  | read :: counts, t =>
    let (due, t) := t.observe read
    let (told, t) := observeEach counts t
    (if due then read :: told else told, t)

/-- Whether a count may be the next one to be reported. -/
def Spaced (interval total last next : Nat) : Prop :=
  last < next ∧ (last + interval ≤ next ∨ next = total)

variable {t : Throttle} {read : Nat}

theorem due_iff_spaced : t.due read = true ↔ Spaced t.interval t.total t.lastReported read := by
  rw [due_iff, Spaced]
  omega

theorem observe_of_due (due : t.due read = true) :
    t.observe read = (true, { t with lastReported := read }) :=
  if_pos due

theorem observe_of_not_due (early : ¬ t.due read = true) : t.observe read = (false, t) :=
  if_neg early

theorem observeEach_of_due (due : t.due read = true) (counts : List Nat) :
    observeEach (read :: counts) t =
      (read :: (observeEach counts { t with lastReported := read }).1,
        (observeEach counts { t with lastReported := read }).2) := by
  rw [observeEach, observe_of_due due]
  rfl

theorem observeEach_of_not_due (early : ¬ t.due read = true) (counts : List Nat) :
    observeEach (read :: counts) t = observeEach counts t := by
  rw [observeEach, observe_of_not_due early]
  rfl

/-- Any counts keep the interval and the total. Those that are reported are spaced, from the one on that was
reported last before them, and the last of them is noted. -/
theorem observeEach_spaced (counts : List Nat) (t : Throttle) :
    (t.lastReported :: (observeEach counts t).1).IsChain (Spaced t.interval t.total) ∧
      (observeEach counts t).2 =
        { t with lastReported := (observeEach counts t).1.getLastD t.lastReported } := by
  -- A count that is reported is the last one for those that follow.
  induction counts generalizing t with
  | nil => exact ⟨.singleton _, rfl⟩
  | cons read counts ih =>
    by_cases due : t.due read = true
    · obtain ⟨chain, noted⟩ := ih { t with lastReported := read }
      rw [observeEach_of_due due, List.getLastD_cons]
      exact ⟨List.isChain_cons_cons.mpr ⟨due_iff_spaced.mp due, chain⟩, noted⟩
    · rw [observeEach_of_not_due due]
      exact ih t

/-- Where a report lies ahead, the next one is made after exactly the bytes that are left until then. -/
theorem untilNext_exact (later : t.lastReported ≤ read) (ahead : 0 < t.untilNext read) :
    t.due (read + t.untilNext read) = true ∧
      ∀ n, read ≤ n → n < read + t.untilNext read → ¬ t.due n = true := by
  unfold untilNext at ahead ⊢
  simp only [due_iff_spaced, Spaced]
  constructor
  · omega
  · intro n _ before
    omega

theorem untilNext_pos_iff :
    0 < t.untilNext read ↔ read < t.total ∧ read < t.lastReported + t.interval := by
  unfold untilNext
  omega

/-- The counts that are reported grow, two in a row differ by an interval unless the later one is the total,
and the total is reported once at most. From whatever count the bytes until the next report are then counted,
there is a report after exactly these bytes and none before, if one lies ahead. The count fits into words
where the next full interval does. -/
theorem reports_keep_distance (interval total : Nat) (counts : List Nat) :
    let told := (observeEach counts (new interval total)).1
    let t := (observeEach counts (new interval total)).2
    told.Pairwise (· < ·) ∧
    (0 :: told).IsChain (fun last next => last + max interval 1 ≤ next ∨ next = total) ∧
    told.count total ≤ 1 ∧
    ∀ read, told.getLastD 0 ≤ read →
      (0 < t.untilNext read ↔ read < total ∧ read < told.getLastD 0 + max interval 1) ∧
      (0 < t.untilNext read →
        (t.observe (read + t.untilNext read)).1 = true ∧
        ∀ n, read ≤ n → n < read + t.untilNext read → t.observe n = (false, t)) ∧
      (told.getLastD 0 + max interval 1 < wordLimit →
        ∀ overflow, Words.untilNext overflow t read = some (t.untilNext read)) := by
  intro told t
  obtain ⟨chain, state⟩ := observeEach_spaced counts (new interval total)
  have last : t.lastReported = told.getLastD 0 := congrArg lastReported state
  have full : t.interval = max interval 1 := congrArg Throttle.interval state
  have size : t.total = total := congrArg Throttle.total state
  have growing : told.Pairwise (· < ·) :=
    (List.isChain_iff_pairwise.mp (chain.imp fun _ _ spaced => spaced.1)).of_cons
  refine ⟨growing, chain.imp fun _ _ spaced => spaced.2, ?_, fun read later => ⟨?_, fun ahead => ?_, ?_⟩⟩
  · exact List.nodup_iff_count_le_one.mp (growing.imp Nat.ne_of_lt) total
  · rw [untilNext_pos_iff, size, last, full]
  · obtain ⟨due, early⟩ := untilNext_exact (last ▸ later) ahead
    refine ⟨?_, fun n from_here before => observe_of_not_due (early n from_here before)⟩
    rw [observe_of_due due]
  · intro fits overflow
    rw [← last, ← full] at fits
    exact Words.untilNext_eq fits

/-- A jump over the first interval moves the next report. -/
theorem reports_keep_distance_after_jump :
    let t := (observeEach [39, 45, 60] (new 40 100)).2
    (observeEach [39, 45, 60] (new 40 100)).1 = [45] ∧ t.untilNext 50 = 35 ∧
      (t.observe 85).1 = true ∧ ∀ n, 50 ≤ n → n < 85 → t.observe n = (false, t) := by
  obtain ⟨-, -, -, ahead⟩ := reports_keep_distance 40 100 [39, 45, 60]
  obtain ⟨-, exactly, -⟩ := ahead 50 (by decide)
  exact ⟨rfl, rfl, exactly (by decide)⟩

end Courier.Throttle
