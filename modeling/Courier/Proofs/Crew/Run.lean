import Courier.Proofs.Crew.InTurn
import Courier.Proofs.Scheduler.Underway
import Mathlib.Logic.Function.Basic

/-! Workers that transfer tasks side by side in one depot. At each step one of them asks its next question,
or something happens in the scheduler; whatever the order of the steps, each transfer goes the way that it
would go alone. -/
namespace Courier

open Scheduler (Event History State Worker)

/-- Files that a question gives up and that are still kept for a while. -/
def Outside.keeps (o : Outside) : Request → List String
  | .dispose path => if o.retains then [path] else []
  | _ => []

structure Crew where
  scheduler : State
  depot : Depot
  /-- What is left to be done of the transfer that a worker is at. -/
  jobs : Nat → Option (Job (Task × Stage))
  /-- Files that have been given up and are there until their time is over. -/
  kept : List String

namespace Crew

def new (slots : Nat) (start : Depot) : Crew :=
  ⟨.new slots, start, fun _ => none, []⟩

/-- What a worker has to do with a task that it has just taken: a pending one is transferred. -/
def jobOf (engine : Engine) : Option Worker → Option (Job (Task × Stage))
  | some (.busy task) => if task.status = .pending then some (Transfer.run engine task) else none
  | _ => none

/-- A run of a crew, in any order of steps and without cancellations: what has happened in the scheduler,
and how things are then. -/
inductive Run (engine : Engine) (o : Outside) (slots : Nat) (start : Depot) : History → Crew → Prop where
  | init : Run engine o slots start [] (.new slots start)
  | event {past : History} {c : Crew} {s : State} (event : Event)
      (run : Run engine o slots start past c) (calm : event.isCalm = true)
      (happens : c.scheduler.step? event = some s) :
      Run engine o slots start (past ++ [(c.scheduler, event)]) { c with scheduler := s }
  | take {past : History} {c : Crew} {s : State} (index : Nat) (run : Run engine o slots start past c)
      (happens : c.scheduler.step? (.take index) = some s) :
      Run engine o slots start (past ++ [(c.scheduler, .take index)])
        { c with
          scheduler := s
          jobs := Function.update c.jobs index (jobOf engine s.workers[index]?) }
  /-- A worker asks the next question of its transfer. -/
  | ask {past : History} {c : Crew} {r : Request} {next : r.Reply → Job (Task × Stage)} {reply : r.Reply}
      {depot : Depot} (index : Nat) (run : Run engine o slots start past c)
      (doing : c.jobs index = some (.ask r next)) (served : o.serve c.depot r = (reply, depot)) :
      Run engine o slots start past
        { c with
          depot
          jobs := Function.update c.jobs index (some (next reply))
          kept := c.kept ++ o.keeps r }
  | finish {past : History} {c : Crew} {s : State} {left : Task} {result : Except TransferError Unit}
      (index : Nat) (run : Run engine o slots start past c)
      (doing : c.jobs index = some (.done (left, .ended result)))
      (happens : c.scheduler.step? (.finish index left result) = some s) :
      Run engine o slots start (past ++ [(c.scheduler, .finish index left result)])
        { c with scheduler := s, jobs := Function.update c.jobs index none }
  /-- The time of a file that has been kept is over. -/
  | expire {past : History} {c : Crew} (path : String) (run : Run engine o slots start past c)
      (kept : path ∈ c.kept) :
      Run engine o slots start past
        { c with depot := c.depot.discard path, kept := c.kept.erase path }

variable {engine : Engine} {o : Outside} {slots : Nat} {start d d' : Depot} {past : History} {c : Crew}
  {s : State}

theorem Run.scheduler (run : Run engine o slots start past c) :
    Scheduler.Run slots past c.scheduler := by
  induction run with
  | init => exact .init
  | event event _ _ happens ih => exact ih.step event happens
  | take index _ happens ih => exact ih.step (.take index) happens
  | finish index _ _ happens ih => exact ih.step (.finish index _ _) happens
  | ask _ _ _ _ ih | expire _ _ _ ih => exact ih

theorem Run.withdrawn (run : Run engine o slots start past c) : past.withdrawn = [] := by
  induction run with
  | init => rfl
  | event event _ calm _ ih =>
    rw [History.withdrawn_concat, ih]
    cases event with
    | cancel => contradiction
    | _ => rfl
  | take _ _ _ ih | finish _ _ _ _ ih =>
    rw [History.withdrawn_concat, ih]
    rfl
  | ask _ _ _ _ ih | expire _ _ _ ih => exact ih

/-! ### What holds at each step -/

open FileTree (Alike Paved Steady)
open Courier.Path (IsName)
open Transfer (cacheFile)

/-- What no transfer has worked on so far is as it was at the start. -/
structure Spared (engine : Engine) (o : Outside) (start : Depot) (past : History) (d : Depot) : Prop where
  steady : Steady engine.cacheDir d.files
  alike : ∀ name, IsName name →
    (∀ task ∈ past.submitted, task.id ∈ past.begun → name ≠ ownName task) →
      Alike engine.cacheDir (Path.below engine.cacheDir name) d.files start.files
  content : ∀ number path,
    (∀ task ∈ past.submitted, task.id ∈ past.begun → ¬ Writes engine o start task number path) →
      d.content number path = start.content number path

/-- A worker at the transfer of a task, which goes the way that it would go alone. -/
structure Working (engine : Engine) (o : Outside) (start : Depot) (past : History) (c : Crew) (index : Nat)
    (job : Job (Task × Stage)) (held : Task) : Prop where
  submitted : held ∈ past.submitted
  busy : c.scheduler.workers[index]? = some (.busy held)
  shadow : ∃ v t made, Shadow engine o start held job c.depot v t made ∧
    (t ≠ [] → cacheFile engine held ∉ c.kept)

/-- A transfer that has ended as it would have ended alone. -/
structure Ended (engine : Engine) (o : Outside) (start : Depot) (past : History) (d : Depot)
    (held left : Task) (result : Except TransferError Unit) : Prop where
  submitted : held ∈ past.submitted
  finished : held.id ∈ past.finished
  same : (left, .ended result) = (alone engine o start held).1
  content : ∀ number path, Writes engine o start held number path →
    d.content number path = (alone engine o start held).2.content number path

/-- Files that are kept are cache files of transfers that have begun. -/
def Keeps (engine : Engine) (past : History) (c : Crew) : Prop :=
  ∀ path ∈ c.kept, Paved engine.cacheDir c.depot.files ∧
    ∃ task ∈ past.submitted, task.id ∈ past.begun ∧ path = cacheFile engine task

structure Sound (engine : Engine) (o : Outside) (start : Depot) (past : History) (c : Crew) : Prop where
  spared : Spared engine o start past c.depot
  waiting : ∀ task ∈ c.scheduler.queue.entries, task.status = .pending → task ∈ past.submitted
  working : ∀ index job, c.jobs index = some job →
    ∃ held, Working engine o start past c index job held
  ended : ∀ s index left result held, (s, .finish index left result) ∈ past →
    s.workers[index]? = some (.busy held) → Ended engine o start past c.depot held left result
  keeps : Keeps engine past c

section Later

variable {event : Event} {task held left : Task} {index : Nat} {job : Job (Task × Stage)}
  {result : Except TransferError Unit}

theorem submitted_later (here : task ∈ past.submitted) :
    task ∈ History.submitted (past ++ [(s, event)]) := by
  rw [History.submitted_concat]
  exact List.mem_append_left _ here

theorem begun_later {id : TaskId} (here : id ∈ past.begun) :
    id ∈ History.begun (past ++ [(s, event)]) := by
  rw [History.begun_concat]
  exact List.mem_append_left _ here

theorem Spared.later (spared : Spared engine o start past d) :
    Spared engine o start (past ++ [(s, event)]) d where
  steady := spared.steady
  alike name named other := spared.alike name named fun task here begun =>
    other task (submitted_later here) (begun_later begun)
  content number path silent := spared.content number path fun task here begun =>
    silent task (submitted_later here) (begun_later begun)

theorem Ended.later (ended : Ended engine o start past d held left result) :
    Ended engine o start (past ++ [(s, event)]) d held left result where
  submitted := submitted_later ended.submitted
  finished := by
    rw [History.finished_concat]
    exact List.mem_append_left _ ended.finished
  same := ended.same
  content := ended.content

theorem Keeps.later {jobs : Nat → Option (Job (Task × Stage))} {s' : State} (keeps : Keeps engine past c) :
    Keeps engine (past ++ [(s, event)]) { c with scheduler := s', jobs } := by
  intro path kept
  obtain ⟨paved, task, submitted, begun, same⟩ := keeps path kept
  exact ⟨paved, task, submitted_later submitted, begun_later begun, same⟩

end Later

theorem Sound.new (independent : Independent engine o start []) (slots : Nat) :
    Sound engine o start [] (.new slots start) where
  spared := ⟨independent.steady, fun _ _ _ => .refl _ _ _, fun _ _ _ => rfl⟩
  waiting := by simp [Crew.new, State.new, Queue.empty]
  working := by simp [Crew.new]
  ended := by simp
  keeps := by simp [Keeps, Crew.new]

/-! ### One step after another -/

/-- Where one worker has got something new to do, it is that one or another one. -/
theorem doing_cases {jobs : Nat → Option (Job (Task × Stage))} {index other : Nat}
    {new : Option (Job (Task × Stage))} {job : Job (Task × Stage)}
    (doing : Function.update jobs index new other = some job) :
    other = index ∧ new = some job ∨ other ≠ index ∧ jobs other = some job := by
  by_cases here : other = index
  · subst here
    rw [Function.update_self] at doing
    exact Or.inl ⟨rfl, doing⟩
  · rw [Function.update_of_ne here] at doing
    exact Or.inr ⟨here, doing⟩

namespace Sound

variable {event : Event} {index : Nat}

theorem waiting_later {task : Task} (sound : Sound engine o start past c)
    (run : Run engine o slots start past c) (happens : c.scheduler.step? event = some s)
    (queued : task ∈ s.queue.entries) (pending : task.status = .pending) :
    task ∈ History.submitted (past ++ [(c.scheduler, event)]) := by
  obtain old | new := State.waits_step run.scheduler.accounted.settled happens queued pending
  · exact submitted_later (sound.waiting task old pending)
  · rw [History.submitted_concat]
    exact List.mem_append_right _ new

theorem ended_later {t : State} {held left : Task} {result : Except TransferError Unit}
    (sound : Sound engine o start past c)
    (mem : (t, .finish index left result) ∈ past ++ [(c.scheduler, event)])
    (busy : t.workers[index]? = some (.busy held)) :
    Ended engine o start (past ++ [(c.scheduler, event)]) c.depot held left result ∨
      t = c.scheduler ∧ event = .finish index left result := by
  obtain old | new := List.mem_append.mp mem
  · exact Or.inl (sound.ended t index left result held old busy).later
  · obtain ⟨rfl, rfl⟩ := Prod.mk.inj (List.mem_singleton.mp new)
    exact Or.inr ⟨rfl, rfl⟩

/-- An event that neither begins nor ends a transfer. -/
theorem calm (sound : Sound engine o start past c)
    (run : Run engine o slots start past c) (calm : event.isCalm = true)
    (happens : c.scheduler.step? event = some s)
    (independent : Independent engine o start past.submitted) :
    Sound engine o start (past ++ [(c.scheduler, event)]) { c with scheduler := s } where
  spared := sound.spared.later
  waiting _ queued pending := sound.waiting_later run happens queued pending
  working index job doing := by
    obtain ⟨held, submitted, busy, shadow⟩ := sound.working index job doing
    have pending := (independent.pending held submitted).1
    exact ⟨held, submitted_later submitted, State.busy_step calm happens busy pending, shadow⟩
  ended t index left result held mem busy := by
    obtain old | ⟨-, rfl⟩ := sound.ended_later mem busy
    · exact old
    · contradiction
  keeps := sound.keeps.later

/-- A transfer begins as if it were alone, since nobody has worked on its file or saved to its place. -/
theorem begins {task : Task} (sound : Sound engine o start past c)
    (independent : Independent engine o start past.submitted) (submitted : task ∈ past.submitted)
    (unbegun : task.id ∉ past.begun) :
    ∃ t, Shadow engine o start task (Transfer.run engine task) c.depot start t false ∧
      cacheFile engine task ∉ c.kept := by
  have others : ∀ other ∈ past.submitted, other.id ∈ past.begun → task ≠ other := by
    rintro other - begun rfl
    exact unbegun begun
  obtain ⟨file, chat, post, message⟩ := independent.messages task submitted
  have alike := sound.spared.alike (ownName task) (cacheName_isName ..) fun other here begun =>
    independent.apart_of_ne submitted here (others other here begun)
  have content (number : Nat) (path : String) (writes : Writes engine o start task number path) :=
    sound.spared.content number path fun other here begun =>
      independent.writes_apart submitted here (others other here begun) writes
  obtain ⟨t, shadow⟩ := Shadow.begin (o := o) message independent.shelves alike content
  refine ⟨t, shadow, fun kept => ?_⟩
  obtain ⟨-, other, here, begun, same⟩ := sound.keeps _ kept
  exact independent.apart_of_ne submitted here (others other here begun) (ownName_of_cacheFile same)

theorem take (sound : Sound engine o start past c) (run : Run engine o slots start past c)
    (happens : c.scheduler.step? (.take index) = some s)
    (independent : Independent engine o start past.submitted) :
    Sound engine o start (past ++ [(c.scheduler, .take index)])
      { c with
        scheduler := s
        jobs := Function.update c.jobs index (jobOf engine s.workers[index]?) } where
  spared := sound.spared.later
  waiting _ queued pending := sound.waiting_later run happens queued pending
  working other job doing := by
    obtain ⟨ready, -, task, queue, popped, rfl⟩ := State.step_take happens
    obtain ⟨rfl, new⟩ | ⟨here, doing⟩ := doing_cases doing
    · -- The worker has got the first task of the queue, and its transfer is all before it.
      have inside : other < c.scheduler.workers.length := (List.getElem?_eq_some_iff.mp ready).1
      have busy : (c.scheduler.workers.set other (.busy task))[other]? = some (.busy task) :=
        List.getElem?_set_self inside
      have first : task ∈ c.scheduler.queue.entries :=
        Queue.entries_of_pop? popped ▸ List.mem_cons_self
      simp only [State.setWorker, busy, jobOf, Option.ite_none_right_eq_some,
        Option.some.injEq] at new
      obtain ⟨pending, rfl⟩ := new
      have submitted := sound.waiting task first pending
      obtain ⟨t, shadow, fresh⟩ := sound.begins independent submitted
        (run.scheduler.unbegun independent.ids first pending)
      exact ⟨task, submitted_later submitted, busy, start, t, false, shadow, fun _ => fresh⟩
    · obtain ⟨held, submitted, busy, shadow⟩ := sound.working other job doing
      exact ⟨held, submitted_later submitted, State.busy_set _ busy ready (by simp), shadow⟩
  ended t index left result held mem busy := by
    obtain old | ⟨-, now⟩ := sound.ended_later mem busy
    · exact old
    · contradiction
  keeps := sound.keeps.later

theorem finish {left : Task} {result : Except TransferError Unit} (sound : Sound engine o start past c)
    (run : Run engine o slots start past c)
    (doing : c.jobs index = some (.done (left, .ended result)))
    (happens : c.scheduler.step? (.finish index left result) = some s) :
    Sound engine o start (past ++ [(c.scheduler, .finish index left result)])
      { c with scheduler := s, jobs := Function.update c.jobs index none } where
  spared := sound.spared.later
  waiting _ queued pending := sound.waiting_later run happens queued pending
  working other job doing' := by
    obtain ⟨held, had, -, -, rfl⟩ := State.step_finish happens
    obtain ⟨-, nothing⟩ | ⟨here, doing'⟩ := doing_cases doing'
    · contradiction
    · obtain ⟨task, submitted, busy, shadow⟩ := sound.working other job doing'
      exact ⟨task, submitted_later submitted,
        (List.getElem?_set_ne (Ne.symm here)).trans busy, shadow⟩
  ended t other left' result' held mem busy := by
    obtain old | ⟨rfl, now⟩ := sound.ended_later mem busy
    · exact old
    · -- The task that the worker has is the one whose transfer has come to its end.
      obtain ⟨rfl, rfl, rfl⟩ := Event.finish.inj now
      obtain ⟨task, submitted, had, v, t, made, shadow, -⟩ := sound.working _ _ doing
      obtain rfl := Worker.busy.inj (Option.some.inj (had.symm.trans busy))
      obtain ⟨held, had', -, own, -⟩ := State.step_finish happens
      obtain rfl := Worker.busy.inj (Option.some.inj (had.symm.trans had'))
      obtain ⟨ended, content⟩ := shadow.done
      refine ⟨submitted_later submitted, ?_, ended, content⟩
      rw [History.finished_concat, own]
      exact List.mem_append_right _ (List.mem_singleton.mpr rfl)
  keeps := sound.keeps.later

end Sound

/-- Work of a transfer that has begun changes nothing of what none has worked on. -/
theorem Spared.elsewhere {task : Task} (spared : Spared engine o start past d)
    (elsewhere : Elsewhere engine o start task d d') (submitted : task ∈ past.submitted)
    (begun : task.id ∈ past.begun) : Spared engine o start past d' where
  steady := elsewhere.steady
  alike name named other :=
    elsewhere.alike name named (other task submitted begun) _ (spared.alike name named other)
  content number path silent :=
    (elsewhere.content number path (silent task submitted begun)).trans
      (spared.content number path silent)

namespace Sound

variable {index : Nat}

theorem ask {r : Request} {next : r.Reply → Job (Task × Stage)} {reply : r.Reply} {depot : Depot}
    (sound : Sound engine o start past c) (run : Run engine o slots start past c)
    (doing : c.jobs index = some (.ask r next)) (served : o.serve c.depot r = (reply, depot))
    (independent : Independent engine o start past.submitted) :
    Sound engine o start past
      { c with
        depot
        jobs := Function.update c.jobs index (some (next reply))
        kept := c.kept ++ o.keeps r } := by
  obtain rfl : (o.serve c.depot r).1 = reply := congrArg Prod.fst served
  obtain rfl : (o.serve c.depot r).2 = depot := congrArg Prod.snd served
  obtain ⟨held, submitted, busy, v, t, made, shadow, owns⟩ := sound.working _ _ doing
  obtain ⟨⟨v', made', later⟩, elsewhere⟩ := shadow.ask sound.spared.steady
  have pending := (independent.pending held submitted).1
  obtain ⟨begun, unfinished⟩ := run.scheduler.underway independent.ids busy pending
  have given : ∀ path ∈ o.keeps r,
      path = cacheFile engine held ∧ t.tail = [] ∧ Paved engine.cacheDir c.depot.files := by
    intro path kept
    cases r with
    | dispose given =>
      simp only [Outside.keeps, List.mem_ite_nil_right, List.mem_singleton] at kept
      obtain ⟨-, rfl⟩ := kept
      exact shadow.dispose
    | _ => contradiction
  refine ⟨sound.spared.elsewhere elsewhere submitted begun, sound.waiting, fun other job doing' => ?_,
    fun s other left result task mem had => ?_, fun path kept => ?_⟩
  · obtain ⟨rfl, same⟩ | ⟨here, doing'⟩ := doing_cases doing'
    · obtain rfl := Option.some.inj same
      refine ⟨held, submitted, busy, v', t.tail, made', later, fun more kept => ?_⟩
      obtain old | new := List.mem_append.mp kept
      · refine owns ?_ old
        rintro rfl
        exact more rfl
      · exact more (given _ new).2.1
    · obtain ⟨task, submitted', busy', w, t', made'', shadow', owns'⟩ := sound.working other job doing'
      have ne : task ≠ held := by
        rintro rfl
        exact here (run.scheduler.busy_unique independent.ids busy' pending busy pending rfl)
      refine ⟨task, submitted', busy', w, t', made'',
        independent.shadow_beside submitted' submitted ne shadow' elsewhere, fun more kept => ?_⟩
      obtain old | new := List.mem_append.mp kept
      · exact owns' more old
      · exact independent.apart_of_ne submitted' submitted ne
          (ownName_of_cacheFile (given _ new).1)
  · obtain ⟨submitted', finished, same, content⟩ := sound.ended s other left result task mem had
    have ne : task ≠ held := by
      rintro rfl
      exact unfinished finished
    exact ⟨submitted', finished, same, fun number path writes =>
      (elsewhere.content number path (independent.writes_apart submitted' submitted ne writes)).trans
        (content number path writes)⟩
  · obtain old | new := List.mem_append.mp kept
    · exact (sound.keeps path old).imp_left elsewhere.paved
    · obtain ⟨rfl, -, paved⟩ := given path new
      exact ⟨elsewhere.paved paved, held, submitted, begun, rfl⟩

theorem expire {path : String} (sound : Sound engine o start past c) (kept : path ∈ c.kept)
    (independent : Independent engine o start past.submitted) :
    Sound engine o start past
      { c with depot := c.depot.discard path, kept := c.kept.erase path } := by
  obtain ⟨paved, held, submitted, begun, rfl⟩ := sound.keeps path kept
  have elsewhere : Elsewhere engine o start held c.depot (c.depot.discard (cacheFile engine held)) :=
    .of_amends (Outside.amends_discard ..) paved fun _ _ _ => rfl
  refine ⟨sound.spared.elsewhere elsewhere submitted begun, sound.waiting, fun index job doing => ?_,
    fun s index left result task mem had => ?_, fun path kept => ?_⟩
  · obtain ⟨task, submitted', busy, v, t, made, shadow, owns⟩ := sound.working index job doing
    have apart (more : t ≠ []) : ownName task ≠ ownName held := by
      refine independent.apart_of_ne submitted' submitted ?_
      rintro rfl
      exact owns more kept
    exact ⟨task, submitted', busy, v, t, made, shadow.beside elsewhere apart fun _ _ _ => rfl,
      fun more still => owns more (List.mem_of_mem_erase still)⟩
  · obtain ⟨submitted', finished, same, content⟩ := sound.ended s index left result task mem had
    exact ⟨submitted', finished, same, content⟩
  · exact (sound.keeps path (List.mem_of_mem_erase kept)).imp_left elsewhere.paved

end Sound

theorem Run.sound (run : Run engine o slots start past c)
    (independent : Independent engine o start past.submitted) : Sound engine o start past c := by
  have before {past : History} {s : State} {event : Event}
      (independent : Independent engine o start (History.submitted (past ++ [(s, event)]))) :
      Independent engine o start past.submitted := by
    rw [History.submitted_concat] at independent
    exact independent.of_sublist (List.sublist_append_left _ _)
  induction run with
  | init => exact .new independent slots
  | event event run calm happens ih =>
    exact (ih (before independent)).calm run calm happens (before independent)
  | take index run happens ih =>
    exact (ih (before independent)).take run happens (before independent)
  | ask index run doing served ih => exact (ih independent).ask run doing served independent
  | finish index run doing happens ih => exact (ih (before independent)).finish run doing happens
  | expire path run kept ih => exact (ih independent).expire kept independent

end Crew

end Courier
