import Courier.Proofs.Crew.Outside

/-! A transfer among others goes the way that it would go alone. Whatever the others have done, at each of
its questions its own file looks as it would, and what it does then is nothing to them. -/
namespace Courier.Crew

open FileTree (Alike Amends Paved Steady)
open Courier.Path (IsName)
open Transfer (Handles SavesAt Tidy cacheFile)

def ownName (task : Task) : String :=
  cacheName task.id (Transfer.prepared task).fileName

section Alone

variable (engine : Engine) (o : Outside) (start : Depot)

/-- How the transfer of a task ends, and the depot then, when there are no others. -/
def alone (task : Task) : (Task × Stage) × Depot :=
  (Transfer.run engine task).perform o start

/-- Whether a transfer that is alone saves its file to a storage under a path. -/
def Writes (task : Task) (number : Nat) (path : String) : Prop :=
  ∃ left storage, (alone engine o start task).1 = (left, .ended (.ok ())) ∧ left.path = path ∧
    engine.registry.find? left.storage = some storage ∧ storage.medium = .backend number

/-- A transfer under way in one depot, and the same transfer alone in another: what it will be asking and
answered there, and whether it has made its directory. -/
structure Shadow (task : Task) (job : Job (Task × Stage)) (d v : Depot) (t : List Exchange)
    (made : Bool) : Prop where
  trace : job.Trace t (alone engine o start task).1
  follows : o.answers.Follows v t (alone engine o start task).2
  tidy : Tidy engine.cacheDir (cacheFile engine task) made t
  saves : ∀ number path, SavesAt t (.backend number) path → Writes engine o start task number path
  alike : t ≠ [] → Alike engine.cacheDir (cacheFile engine task) d.files v.files
  paved : t ≠ [] → made = true → Paved engine.cacheDir d.files ∧ Paved engine.cacheDir v.files
  content : ∀ number path, Writes engine o start task number path →
    d.content number path = v.content number path

/-- What a transfer of a task does to the others: nothing that they see. -/
structure Elsewhere (task : Task) (d d' : Depot) : Prop where
  steady : Steady engine.cacheDir d'.files
  paved : Paved engine.cacheDir d.files → Paved engine.cacheDir d'.files
  alike : ∀ name, IsName name → name ≠ ownName task → ∀ other,
    Alike engine.cacheDir (Path.below engine.cacheDir name) d.files other →
      Alike engine.cacheDir (Path.below engine.cacheDir name) d'.files other
  content : ∀ number path, ¬ Writes engine o start task number path →
    d'.content number path = d.content number path

end Alone

variable {engine : Engine} {o : Outside} {start : Depot} {task : Task} {d d' m v : Depot}
  {t : List Exchange} {made : Bool}

namespace Elsewhere

theorem refl (steady : Steady engine.cacheDir d.files) : Elsewhere engine o start task d d :=
  ⟨steady, id, fun _ _ _ _ alike => alike, fun _ _ _ => rfl⟩

theorem trans (first : Elsewhere engine o start task d m) (second : Elsewhere engine o start task m d') :
    Elsewhere engine o start task d d' where
  steady := second.steady
  paved h := second.paved (first.paved h)
  alike name named other tree h := second.alike name named other tree (first.alike name named other tree h)
  content number path h := (second.content number path h).trans (first.content number path h)

/-- Work on the cache file, once there is a directory for it. -/
theorem of_amends (amends : Amends (cacheFile engine task) d.files d'.files)
    (paved : Paved engine.cacheDir d.files)
    (content : ∀ number path, ¬ Writes engine o start task number path →
      d'.content number path = d.content number path) : Elsewhere engine o start task d d' where
  steady := (amends.paved paved).steady
  paved := amends.paved
  alike _ named other _ alike := amends.alike paved (cacheName_isName ..) named other alike
  content := content

theorem of_pave (steady : Steady engine.cacheDir d.files) :
    Elsewhere engine o start task d { d with files := (d.files.pave engine.cacheDir).2 } where
  steady := steady.pave
  paved h := by
    have once : d.files.pave engine.cacheDir = (.ok (), d.files) := h
    rw [once]
    exact h
  alike _ _ _ _ alike := alike.pave_left steady
  content _ _ _ := rfl

end Elsewhere

namespace Shadow

theorem saves_later {job : Job (Task × Stage)} {x : Exchange} {number : Nat} {path : String}
    (shadow : Shadow engine o start task job d v (x :: t) made)
    (later : SavesAt t (.backend number) path) : Writes engine o start task number path :=
  shadow.saves number path (later.mono (List.subset_cons_self x t))

/-- A transfer that has come to its end has come to the end that it would come to alone. -/
theorem done {a : Task × Stage} (shadow : Shadow engine o start task (.done a) d v t made) :
    a = (alone engine o start task).1 ∧ ∀ number path, Writes engine o start task number path →
      d.content number path = (alone engine o start task).2.content number path := by
  obtain ⟨rfl, same⟩ := Job.trace_done.mp shadow.trace
  have final : (alone engine o start task).2 = v := shadow.follows
  exact ⟨same.symm, by rw [final]; exact shadow.content⟩

section Ask

variable {r : Request} {next : r.Reply → Job (Task × Stage)} {reply : r.Reply}

theorem trace_later (shadow : Shadow engine o start task (.ask r next) d v (⟨r, reply⟩ :: t) made) :
    (next reply).Trace t (alone engine o start task).1 := by
  cases shadow.trace with
  | ask _ rest => exact rest

theorem ask_handled (shadow : Shadow engine o start task (.ask r next) d v (⟨r, reply⟩ :: t) made)
    (steady : Steady engine.cacheDir d.files)
    (handles : Handles (if made then some (cacheFile engine task) else none) r) :
    (∃ v', Shadow engine o start task (next (o.serve d r).1) (o.serve d r).2 v' t made) ∧
      Elsewhere engine o start task d (o.serve d r).2 := by
  have run := shadow.trace_later
  obtain ⟨v', served, follows⟩ := shadow.follows
  have reply_eq : (o.serve v r).1 = reply := congrArg Prod.fst served
  have depot_eq : (o.serve v r).2 = v' := congrArg Prod.snd served
  have tidy := (Transfer.tidy_cons handles).mp shadow.tidy
  have alike := shadow.alike (List.cons_ne_nil _ _)
  cases made with
  | false =>
    -- The directory has not been made yet, and neither depot changes.
    obtain ⟨here, same⟩ := Outside.serve_quiet (o := o) (d := d) (v := v) handles
    obtain ⟨there, -⟩ := Outside.serve_quiet (o := o) (d := v) (v := v) handles
    rw [there] at depot_eq
    subst depot_eq
    rw [here, same, reply_eq]
    exact ⟨⟨v, run, follows, tidy, fun _ _ => shadow.saves_later, fun _ => alike, fun _ => by simp,
      shadow.content⟩, .refl steady⟩
  | true =>
    obtain ⟨paved, paved'⟩ := shadow.paved (List.cons_ne_nil _ _) rfl
    have sight := (FileTree.alike_iff_of_paved paved paved').mp alike
    obtain ⟨same, shown, more, written, written'⟩ := Outside.serve_congr (o := o) handles sight
    have amends := Outside.serve_amends (o := o) (d := d) handles
    have amends' := Outside.serve_amends (o := o) (d := v) handles
    have later := amends.paved paved
    have later' := amends'.paved paved'
    rw [depot_eq] at shown written' later'
    constructor
    · rw [same, reply_eq]
      exact ⟨v', run, follows, tidy, fun _ _ => shadow.saves_later,
        fun _ => (FileTree.alike_iff_of_paved later later').mpr shown, fun _ _ => ⟨later, later'⟩,
        fun number path writes =>
          Outside.content_congr (shadow.content number path writes) written written'⟩
    · refine .of_amends amends paved fun number path silent => Outside.serve_content fun saved => ?_
      rw [same, reply_eq] at saved
      have alongside := saved.mono (List.cons_subset_cons ⟨r, reply⟩ (List.nil_subset t))
      exact silent (shadow.saves number path alongside)

/-- The directory is made before all work on the cache file, or the transfer is at its end. -/
theorem ask_directory {dir : String} {next : Except OsError Unit → Job (Task × Stage)}
    {reply : Except OsError Unit}
    (shadow : Shadow engine o start task (.ask (.makeDirectories dir) next) d v
      (⟨.makeDirectories dir, reply⟩ :: t) made)
    (steady : Steady engine.cacheDir d.files) :
    (∃ v' made', Shadow engine o start task (next (o.serve d (.makeDirectories dir)).1)
        (o.serve d (.makeDirectories dir)).2 v' t made') ∧
      Elsewhere engine o start task d (o.serve d (.makeDirectories dir)).2 := by
  have run := shadow.trace_later
  obtain ⟨rfl, rfl, goes_on, stops⟩ := shadow.tidy
  obtain ⟨v', served, follows⟩ := shadow.follows
  obtain ⟨rfl, rfl⟩ := Prod.mk.inj served
  have alike := shadow.alike (List.cons_ne_nil _ _)
  have reply_eq : (d.files.pave engine.cacheDir).1 = (v.files.pave engine.cacheDir).1 := alike.made
  refine ⟨?_, .of_pave steady⟩
  rw [show (o.serve d (.makeDirectories engine.cacheDir)).1 = _ from reply_eq]
  by_cases through : (v.files.pave engine.cacheDir).1 = .ok ()
  · have later := FileTree.paved_of_pave (reply_eq.trans through)
    have later' := FileTree.paved_of_pave through
    exact ⟨_, true, run, follows, goes_on through, fun _ _ => shadow.saves_later,
      fun _ => (FileTree.alike_iff_of_paved later later').mpr alike.sight,
      fun _ _ => ⟨later, later'⟩, shadow.content⟩
  · obtain rfl := stops through
    exact ⟨_, false, run, follows, trivial, fun _ _ => shadow.saves_later,
      fun more => absurd rfl more, fun more => absurd rfl more, shadow.content⟩

theorem ask_dispose {given : String} {next : Unit → Job (Task × Stage)} {reply : Unit}
    (shadow : Shadow engine o start task (.ask (.dispose given) next) d v
      (⟨.dispose given, reply⟩ :: t) made) :
    (∃ v' made', Shadow engine o start task (next (o.serve d (.dispose given)).1)
        (o.serve d (.dispose given)).2 v' t made') ∧
      Elsewhere engine o start task d (o.serve d (.dispose given)).2 := by
  have run := shadow.trace_later
  obtain ⟨rfl, rfl, rfl⟩ := shadow.tidy
  obtain ⟨v', served, follows⟩ := shadow.follows
  obtain rfl : (o.serve v (.dispose (cacheFile engine task))).2 = v' := congrArg Prod.snd served
  obtain ⟨paved, -⟩ := shadow.paved (List.cons_ne_nil _ _) rfl
  constructor
  · refine ⟨_, true, run, follows, trivial, fun _ _ => shadow.saves_later, fun more => absurd rfl more,
      fun more => absurd rfl more, fun number path writes => ?_⟩
    rw [Outside.content_dispose, Outside.content_dispose]
    exact shadow.content number path writes
  · exact .of_amends (Outside.amends_dispose ..) paved fun _ _ _ => Outside.content_dispose ..

/-- A question among others is answered as it would be alone, and what it does is nothing to them. -/
theorem ask (shadow : Shadow engine o start task (.ask r next) d v t made)
    (steady : Steady engine.cacheDir d.files) :
    (∃ v' made', Shadow engine o start task (next (o.serve d r).1) (o.serve d r).2 v' t.tail made') ∧
      Elsewhere engine o start task d (o.serve d r).2 := by
  obtain ⟨reply, t, rfl, -⟩ := Job.trace_ask.mp shadow.trace
  rw [List.tail_cons]
  have handled (handles : Handles (if made then some (cacheFile engine task) else none) r) :
      (∃ v' made', Shadow engine o start task (next (o.serve d r).1) (o.serve d r).2 v' t made') ∧
        Elsewhere engine o start task d (o.serve d r).2 := by
    obtain ⟨⟨v', later⟩, elsewhere⟩ := shadow.ask_handled steady handles
    exact ⟨⟨v', made, later⟩, elsewhere⟩
  have tidy := shadow.tidy
  cases r with
  | makeDirectories dir => exact shadow.ask_directory steady
  | dispose given => exact shadow.ask_dispose
  | _ => exact handled tidy.1

theorem dispose {path : String} {next : Unit → Job (Task × Stage)}
    (shadow : Shadow engine o start task (.ask (.dispose path) next) d v t made) :
    path = cacheFile engine task ∧ t.tail = [] ∧ Paved engine.cacheDir d.files := by
  obtain ⟨reply, t, rfl, -⟩ := Job.trace_ask.mp shadow.trace
  obtain ⟨rfl, same, last⟩ := shadow.tidy
  exact ⟨same, last, (shadow.paved (List.cons_ne_nil _ _) rfl).1⟩

end Ask

/-- A transfer that goes on without a break comes to the end that it would come to alone. -/
theorem perform {job : Job (Task × Stage)} (shadow : Shadow engine o start task job d v t made)
    (steady : Steady engine.cacheDir d.files) :
    (job.perform o d).1 = (alone engine o start task).1 ∧
      (∀ number path, Writes engine o start task number path →
        (job.perform o d).2.content number path =
          (alone engine o start task).2.content number path) ∧
      Elsewhere engine o start task d (job.perform o d).2 := by
  induction job generalizing d v t made with
  | done a =>
    obtain ⟨same, content⟩ := shadow.done
    exact ⟨same, content, .refl steady⟩
  | ask r next ih =>
    obtain ⟨⟨v', made', later⟩, elsewhere⟩ := shadow.ask steady
    obtain ⟨same, content, rest⟩ := ih _ later elsewhere.steady
    exact ⟨same, content, elsewhere.trans rest⟩

/-- What is nothing to a transfer leaves it as it is; at its end it needs no file any more. -/
theorem beside {job : Job (Task × Stage)} {other : Task}
    (shadow : Shadow engine o start task job d v t made) (elsewhere : Elsewhere engine o start other d d')
    (apart : t ≠ [] → ownName task ≠ ownName other)
    (content : ∀ number path, Writes engine o start task number path →
      d'.content number path = d.content number path) :
    Shadow engine o start task job d' v t made where
  trace := shadow.trace
  follows := shadow.follows
  tidy := shadow.tidy
  saves := shadow.saves
  alike more := elsewhere.alike _ (cacheName_isName ..) (apart more) _ (shadow.alike more)
  paved more has := (shadow.paved more has).imp_left elsewhere.paved
  content number path writes :=
    (content number path writes).trans (shadow.content number path writes)

/-- A transfer begins like one that is alone if its own file and its own place in the storages look the
same as at the start. -/
theorem begin {file : RemoteFile} {chat post : Int} (message : task.origin = .message file chat post)
    (shelves : ∀ storage ∈ engine.registry.storages, ∃ number, storage.medium = .backend number)
    (alike : Alike engine.cacheDir (cacheFile engine task) d.files start.files)
    (content : ∀ number path, Writes engine o start task number path →
      d.content number path = start.content number path) :
    ∃ t, Shadow engine o start task (Transfer.run engine task) d start t false := by
  obtain ⟨t, run, follows⟩ := (Transfer.run engine task).perform_trace o start
  have ran : (Transfer.run engine task).Trace t
      ((alone engine o start task).1.1, (alone engine o start task).1.2) := run
  have course := Transfer.run_tidy shelves message ran
  refine ⟨t, run, follows, course.1, fun number path saves => ?_, fun _ => alike, by simp, content⟩
  obtain ⟨ended, rfl, storage, found, medium⟩ := course.2 _ _ saves
  exact ⟨_, storage, Prod.ext rfl ended, rfl, found, medium⟩

end Shadow

end Courier.Crew
