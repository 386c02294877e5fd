import Courier.Scheduler.Queue
import Mathlib.Data.List.Induction
import Mathlib.Data.List.Nodup

/-! The queue keeps the order of its pushes. What has been popped, followed by what waits, is what has
been pushed without the entries that cancellations have taken out. -/
namespace Courier.Queue

/-- A call of a queue. A task may be pushed whatever it is like, and as often as one likes. -/
inductive Call where
  | push (task : Task)
  | pop
  | cancel (key : Key)

/-- A queue, what has been pushed, and what its calls have given back, each in order. -/
structure Used where
  queue : Queue
  pushed : List Task
  popped : List Task
  removed : List Task

namespace Used

def new : Used := ⟨.empty, [], [], []⟩

def call (u : Used) : Call → Used
  | .push task => { u with queue := u.queue.push task, pushed := u.pushed ++ [task] }
  | .pop =>
    match u.queue.pop? with
    | none => u
    | some (task, queue) => { u with queue, popped := u.popped ++ [task] }
  | .cancel key =>
    { u with queue := (u.queue.cancel key).2, removed := u.removed ++ (u.queue.cancel key).1.removed }

def after (calls : List Call) : Used :=
  calls.foldl call new

theorem after_concat (calls : List Call) (c : Call) : after (calls ++ [c]) = (after calls).call c := by
  rw [after, List.foldl_append]
  rfl

end Used

/-- A pushed task as a cancellation gives it back, which only a pending one can be. -/
def withdrawn? (task : Task) : Option Task :=
  (task.askCancel.advance .canceled).toOption

theorem withdrawn?_of_isMeant {key : Key} {task : Task} (meant : isMeant key task = true) :
    withdrawn? task = some { task with canceled := true, status := .canceled } := by
  have pending : task.status = .pending := by
    rw [isMeant, Bool.and_eq_true, beq_iff_eq] at meant
    exact meant.1
  simp [withdrawn?, Task.advance, Task.askCancel, pending, Status.canBecome, Status.isTerminal,
    Except.toOption]

def others (gone : List Nat) (pushed : List Task) : List (Task × Nat) :=
  pushed.zipIdx.filter fun entry => entry.2 ∉ gone

section Others

variable {gone : List Nat} {pushed : List Task} {task : Task} {n : Nat}

theorem mem_others : (task, n) ∈ others gone pushed ↔ pushed[n]? = some task ∧ n ∉ gone := by
  rw [others, List.mem_filter, List.mem_zipIdx_iff_getElem?, decide_eq_true_iff]

theorem others_nodup (gone : List Nat) (pushed : List Task) :
    ((others gone pushed).map (·.2)).Nodup := by
  have numbers : (pushed.zipIdx.map (·.2)).Nodup := by
    rw [List.zipIdx_map_snd]
    exact List.nodup_range'
  exact numbers.sublist (List.filter_sublist.map _)

theorem others_concat (bounded : ∀ n ∈ gone, n < pushed.length) (task : Task) :
    others gone (pushed ++ [task]) = others gone pushed ++ [(task, pushed.length)] := by
  have fresh : pushed.length ∉ gone := fun taken => Nat.lt_irrefl _ (bounded _ taken)
  rw [others, List.zipIdx_append, List.filter_append, others]
  simp [fresh]

/-- Without some more of the pushes those that come before them stay, and those after them that are not
meant. -/
theorem others_append {front back : List (Task × Nat)} (same : others gone pushed = front ++ back)
    (meant : Task → Bool) :
    others (gone ++ (back.filter (meant ·.1)).map (·.2)) pushed =
      front ++ back.filter (!meant ·.1) := by
  have nodup := others_nodup gone pushed
  rw [same, List.map_append] at nodup
  obtain ⟨-, distinct, apart⟩ := List.nodup_append.mp nodup
  have step : others (gone ++ (back.filter (meant ·.1)).map (·.2)) pushed =
      (others gone pushed).filter fun entry => entry.2 ∉ (back.filter (meant ·.1)).map (·.2) := by
    rw [others, others, List.filter_filter]
    refine List.filter_congr fun entry _ => ?_
    simp only [List.mem_append, not_or, Bool.decide_and, Bool.and_comm]
  have before : ∀ entry ∈ front, entry.2 ∉ (back.filter (meant ·.1)).map (·.2) := by
    intro entry has taken
    obtain ⟨other, there, number⟩ := List.mem_map.mp taken
    have elsewhere : other.2 ∈ back.map (·.2) :=
      List.mem_map.mpr ⟨other, (List.mem_filter.mp there).1, rfl⟩
    exact apart _ (List.mem_map.mpr ⟨entry, has, rfl⟩) _ elsewhere number.symm
  have behind : ∀ entry ∈ back, entry.2 ∈ (back.filter (meant ·.1)).map (·.2) ↔
      meant entry.1 = true := by
    intro entry has
    constructor
    · intro taken
      obtain ⟨other, there, number⟩ := List.mem_map.mp taken
      obtain ⟨there, picked⟩ := List.mem_filter.mp there
      rwa [← List.inj_on_of_nodup_map distinct there has number]
    · intro picked
      exact List.mem_map.mpr ⟨entry, List.mem_filter.mpr ⟨has, picked⟩, rfl⟩
  rw [step, same, List.filter_append]
  congr 1
  · exact List.filter_eq_self.mpr fun entry has => decide_eq_true (before entry has)
  · refine List.filter_congr fun entry has => ?_
    simp only [behind entry has, decide_not, Bool.decide_eq_true]

end Others

/-- The pushes with some numbers have been taken out, and the others have been popped or wait, in the
order in which they were pushed. -/
structure Ordered (u : Used) (gone : List Nat) : Prop where
  distinct : gone.Nodup
  removed : u.removed.map some = gone.map fun n => u.pushed[n]?.bind withdrawn?
  order : u.popped ++ u.queue.entries = (others gone u.pushed).map (·.1)

namespace Ordered

variable {u : Used} {gone : List Nat}

theorem bounded (ordered : Ordered u gone) : ∀ n ∈ gone, n < u.pushed.length := by
  intro n taken
  have given : u.pushed[n]?.bind withdrawn? ∈ u.removed.map some := by
    rw [ordered.removed]
    exact List.mem_map.mpr ⟨n, taken, rfl⟩
  obtain ⟨task, -, eq⟩ := List.mem_map.mp given
  by_contra outside
  rw [List.getElem?_eq_none (Nat.le_of_not_lt outside)] at eq
  contradiction

theorem push (ordered : Ordered u gone) (task : Task) : Ordered (u.call (.push task)) gone where
  distinct := ordered.distinct
  removed := by
    have kept : ∀ n ∈ gone, (u.pushed ++ [task])[n]? = u.pushed[n]? := fun n taken =>
      List.getElem?_append_left (ordered.bounded n taken)
    refine ordered.removed.trans (List.map_congr_left fun n taken => ?_)
    rw [Used.call, kept n taken]
  order := by
    show u.popped ++ (u.queue.entries ++ [task]) = (others gone (u.pushed ++ [task])).map (·.1)
    rw [others_concat ordered.bounded, List.map_append, ← ordered.order, List.append_assoc]
    rfl

theorem pop (ordered : Ordered u gone) : Ordered (u.call .pop) gone := by
  unfold Used.call
  cases first : u.queue.pop? with
  | none => exact ordered
  | some found =>
    obtain ⟨task, rest⟩ := found
    refine ⟨ordered.distinct, ordered.removed, ?_⟩
    show (u.popped ++ [task]) ++ rest.entries = _
    rw [← ordered.order, entries_of_pop? first, List.append_assoc]
    rfl

/-- A cancellation takes out entries that wait, wherever they stand among the others. -/
theorem cancel (ordered : Ordered u gone) (key : Key) :
    ∃ more, Ordered (u.call (.cancel key)) (gone ++ more) := by
  obtain ⟨front, back, same, popped, waiting⟩ := List.map_eq_append_iff.mp ordered.order.symm
  have meant : (u.queue.entries.filter (isMeant key)) = (back.filter (isMeant key ·.1)).map (·.1) := by
    rw [← waiting, List.filter_map]
    rfl
  have unmeant : (u.queue.entries.filter (!isMeant key ·)) =
      (back.filter (!isMeant key ·.1)).map (·.1) := by
    rw [← waiting, List.filter_map]
    rfl
  refine ⟨(back.filter (isMeant key ·.1)).map (·.2), ?_, ?_, ?_⟩
  · have nodup := others_nodup gone u.pushed
    rw [same, List.map_append] at nodup
    have numbers := (List.nodup_append.mp nodup).2.1
    refine List.nodup_append.mpr ⟨ordered.distinct, numbers.sublist (List.filter_sublist.map _), ?_⟩
    intro n taken m again equal
    obtain ⟨entry, there, number⟩ := List.mem_map.mp again
    have listed : (entry.1, entry.2) ∈ others gone u.pushed := by
      rw [same]
      exact List.mem_append_right _ (List.mem_filter.mp there).1
    apply (mem_others.mp listed).2
    rwa [number, ← equal]
  · -- Each of them is given back as its push was, but ended as canceled.
    show (u.removed ++ (u.queue.cancel key).1.removed).map some = _
    rw [List.map_append, List.map_append, ordered.removed, Queue.cancel, meant]
    congr 1
    rw [List.map_map, List.map_map, List.map_map]
    refine List.map_congr_left fun entry there => ?_
    obtain ⟨there, picked⟩ := List.mem_filter.mp there
    have listed : (entry.1, entry.2) ∈ others gone u.pushed := by
      rw [same]
      exact List.mem_append_right _ there
    show some _ = u.pushed[entry.2]?.bind withdrawn?
    rw [(mem_others.mp listed).1, Option.bind_some, withdrawn?_of_isMeant picked]
  · show u.popped ++ u.queue.entries.filter (!isMeant key ·) = _
    have spared := others_append same (isMeant key)
    rw [show (u.call (.cancel key)).pushed = u.pushed from rfl, spared, List.map_append, popped, unmeant]

end Ordered

theorem exists_ordered (calls : List Call) : ∃ gone, Ordered (.after calls) gone := by
  induction calls using List.reverseRecOn with
  | nil => exact ⟨[], List.nodup_nil, rfl, rfl⟩
  | append_singleton calls c ih =>
    obtain ⟨gone, ordered⟩ := ih
    rw [Used.after_concat]
    cases c with
    | push task => exact ⟨gone, ordered.push task⟩
    | pop => exact ⟨gone, ordered.pop⟩
    | cancel key =>
      obtain ⟨more, ordered⟩ := ordered.cancel key
      exact ⟨gone ++ more, ordered⟩

theorem others_length {gone : List Nat} {pushed : List Task} (distinct : gone.Nodup)
    (bounded : ∀ n ∈ gone, n < pushed.length) :
    (others gone pushed).length + gone.length = pushed.length := by
  have numbers : (others gone pushed).length =
      ((List.range pushed.length).filter (· ∉ gone)).length := by
    rw [List.range_eq_range', ← List.zipIdx_map_snd 0 pushed, List.filter_map, List.length_map]
    rfl
  have taken : ((List.range pushed.length).filter (· ∈ gone)).Perm gone := by
    refine (List.perm_ext_iff_of_nodup (List.nodup_range.filter _) distinct).mpr fun n => ?_
    rw [List.mem_filter, List.mem_range, decide_eq_true_iff]
    exact ⟨And.right, fun has => ⟨bounded n has, has⟩⟩
  have parts := List.length_eq_length_filter_add (l := List.range pushed.length)
    fun n => decide (n ∈ gone)
  rw [List.length_range, taken.length_eq] at parts
  simp only [decide_not] at numbers
  omega

/-- Whatever is called, what has been popped and then what waits are the pushes in their order, without
those that cancellations have given back: each of these is another push, which was pending, ended as
canceled. So there wait as many as have been pushed less those popped and those taken out; and while
there are any, a pop gives the first of them. -/
theorem first_in_first_out (calls : List Call) :
    (∃ gone : List Nat, gone.Nodup ∧
      (Used.after calls).removed.map some =
        gone.map (fun n => (Used.after calls).pushed[n]?.bind withdrawn?) ∧
      (Used.after calls).popped ++ (Used.after calls).queue.entries =
        (others gone (Used.after calls).pushed).map (·.1)) ∧
    (Used.after calls).queue.length + (Used.after calls).popped.length +
      (Used.after calls).removed.length = (Used.after calls).pushed.length ∧
    ((Used.after calls).queue.pop?.map (·.1) = (Used.after calls).queue.entries.head?) := by
  obtain ⟨gone, ordered⟩ := exists_ordered calls
  refine ⟨⟨gone, ordered.distinct, ordered.removed, ordered.order⟩, ?_, ?_⟩
  · have removed : (Used.after calls).removed.length = gone.length := by
      simpa using congrArg List.length ordered.removed
    have order := congrArg List.length ordered.order
    rw [List.length_append, List.length_map] at order
    have total := others_length ordered.distinct ordered.bounded
    rw [Queue.length]
    omega
  · unfold pop?
    cases (Used.after calls).queue.entries <;> rfl

end Courier.Queue
