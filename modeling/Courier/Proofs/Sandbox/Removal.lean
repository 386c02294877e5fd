import Courier.Proofs.Disk.Saving
import Courier.Sandbox.Answer

/-! Files that are to be removed, at once or when their time has come. Whatever else happens meanwhile,
a file that is due at a time stays as it is before that, and is gone after it. -/
namespace Courier.Sandbox

open FileTree (Beside Tended tended_of_none)

/-- The world as an activity leaves it when it is done or waits for the first time. -/
def Outcome.world {α : Type} : Outcome α → World
  | .done _ w => w
  | .wait _ _ w _ => w

/-- Whether an alarm is about no file at a path. -/
def Alarm.Apart (fs : FileTree) (path : String) : Alarm → Prop
  | .cancel _ => True
  | .remove other => fs.standing path ≠ fs.standing other

theorem Alarm.Apart.congr {fs fs' : FileTree} {path : String} {alarm : Alarm}
    (home : fs'.home = fs.home) (apart : alarm.Apart fs path) : alarm.Apart fs' path := by
  cases alarm with
  | cancel task => trivial
  | remove other =>
    rw [Alarm.Apart, FileTree.standing_congr home, FileTree.standing_congr home]
    exact apart

/-- Whether no alarm is about a file at a path. -/
def World.Sheltered (path : String) (w : World) : Prop :=
  ∀ e ∈ w.alarms, e.2.Apart w.files path

theorem World.Sheltered.congr {w w' : World} {path : String} (sheltered : w.Sheltered path)
    (alarms : w'.alarms = w.alarms) (home : w'.files.home = w.files.home) : w'.Sheltered path := by
  intro e he
  rw [alarms] at he
  exact (sheltered e he).congr home

/-- Whether the clock, the alarms and the retention are the same. -/
structure SameTimes (w w' : World) : Prop where
  now : w'.now = w.now
  alarms : w'.alarms = w.alarms
  retention : w'.retention = w.retention

/-- What may happen beside a run in which the files at some paths are left alone: time passes and alarms
go off, others set alarms, and others work on other files. -/
inductive Aside (kept : String → Prop) (w : World) : World → Prop where
  | time (deadline : Nat) (watch : Option TaskId) : Aside kept w (w.pass deadline watch)
  | alarm (time : Nat) (alarm : Alarm) (apart : ∀ path, kept path → alarm.Apart w.files path) :
      Aside kept w (w.setAlarm time alarm)
  | work {w' : World} (times : SameTimes w w')
      (beside : ∀ path, kept path → Beside path w.files w'.files) : Aside kept w w'

namespace World

variable {w w' : World} {path : String}

theorem cancel_times (w : World) (task : TaskId) :
    SameTimes w (w.cancel task) ∧ (w.cancel task).files = w.files := by
  unfold cancel
  split
  · exact ⟨⟨rfl, rfl, rfl⟩, rfl⟩
  · exact ⟨⟨rfl, rfl, rfl⟩, rfl⟩

theorem fire_times (w : World) (alarm : Alarm) : SameTimes w (w.fire alarm) := by
  cases alarm with
  | cancel task => exact (cancel_times w task).1
  | remove other => exact ⟨rfl, rfl, rfl⟩

theorem fire_beside {alarm : Alarm} (apart : alarm.Apart w.files path) :
    Beside path w.files (w.fire alarm).files := by
  cases alarm with
  | cancel task =>
    have files : (w.fire (.cancel task)).files = w.files := (cancel_times w task).2
    rw [files]
    exact .refl path w.files
  | remove other => exact (Disk.spares_discard w.files other).beside apart

section Passing

variable {I : World → Prop}
  (fires : ∀ w time alarm rest, w.alarms = (time, alarm) :: rest → I w →
    I ({ w with now := max w.now time, alarms := rest }.fire alarm))
  (waits : ∀ w now, w.now ≤ now → (∀ e ∈ w.alarms.head?, now ≤ e.1) → I w → I { w with now })

include fires waits

theorem passUntil_induction {alarms : List (Nat × Alarm)} (holds : I { w with alarms })
    (deadline : Nat) (watch : Option TaskId) : I (w.passUntil deadline watch alarms) := by
  -- The alarms that have not gone off yet are always those of the world by then.
  induction alarms generalizing w with
  | nil => exact waits { w with alarms := [] } _ (Nat.le_max_left ..) (fun e he => by cases he) holds
  | cons e rest ih =>
    obtain ⟨time, alarm⟩ := e
    unfold passUntil
    split
    · have fired := fires _ time alarm rest rfl holds
      have alarms := (fire_times { w with now := max w.now time, alarms := rest } alarm).alarms
      dsimp only at fired alarms ⊢
      generalize World.fire { w with now := max w.now time, alarms := rest } alarm = later
        at fired alarms ⊢
      split
      · exact fired
      · obtain rfl := alarms
        exact ih fired
    · next early =>
      rw [not_or, Nat.not_le, Nat.not_lt] at early
      refine waits { w with alarms := (time, alarm) :: rest } _ (Nat.le_max_left ..) ?_ holds
      intro e first
      obtain rfl : (time, alarm) = e := Option.some.inj first
      exact Nat.max_le.mpr ⟨Nat.le_of_lt early.1, early.2⟩

/-- What every alarm keeps as it goes off, and the clock as it goes on, time keeps as it passes. -/
theorem pass_induction (holds : I w) (deadline : Nat) (watch : Option TaskId) :
    I (w.pass deadline watch) := by
  unfold pass
  split
  · exact holds
  · exact passUntil_induction fires waits holds deadline watch

end Passing

theorem pass_sorted (sorted : w.alarms.Pairwise (·.1 ≤ ·.1)) (deadline : Nat)
    (watch : Option TaskId) : (w.pass deadline watch).alarms.Pairwise (·.1 ≤ ·.1) := by
  refine pass_induction (I := fun w => w.alarms.Pairwise (·.1 ≤ ·.1)) ?_ ?_ sorted deadline watch
  · intro w time alarm rest first sorted
    rw [(fire_times _ alarm).alarms]
    rw [first] at sorted
    exact sorted.of_cons
  · intro w now _ _ sorted
    exact sorted

theorem pass_retention (w : World) (deadline : Nat) (watch : Option TaskId) :
    (w.pass deadline watch).retention = w.retention := by
  refine pass_induction (I := fun now => now.retention = w.retention) ?_ ?_ rfl deadline watch
  · intro m time alarm rest _ same
    exact (fire_times _ alarm).retention.trans same
  · intro m now _ _ same
    exact same

theorem mem_setAlarm {time : Nat} {alarm : Alarm} {e : Nat × Alarm} :
    e ∈ (w.setAlarm time alarm).alarms ↔ e = (time, alarm) ∨ e ∈ w.alarms := by
  conv_rhs => rw [← List.takeWhile_append_dropWhile (p := (·.1 ≤ time)) (l := w.alarms)]
  simp only [setAlarm, List.mem_append, List.mem_cons]
  tauto

theorem setAlarm_sorted (sorted : w.alarms.Pairwise (·.1 ≤ ·.1)) (time : Nat) (alarm : Alarm) :
    (w.setAlarm time alarm).alarms.Pairwise (·.1 ≤ ·.1) := by
  unfold setAlarm
  dsimp only
  generalize w.alarms = alarms at sorted
  induction alarms with
  | nil => simp
  | cons e rest ih =>
    obtain ⟨first, sorted⟩ := List.pairwise_cons.mp sorted
    by_cases before : e.1 ≤ time
    · rw [List.takeWhile_cons_of_pos (by simpa using before),
        List.dropWhile_cons_of_pos (by simpa using before), List.cons_append, List.pairwise_cons]
      refine ⟨fun x hx => ?_, ih sorted⟩
      rcases List.mem_append.mp hx with hx | hx
      · exact first x (List.takeWhile_subset _ hx)
      · rcases List.mem_cons.mp hx with rfl | hx
        · exact before
        · exact first x (List.dropWhile_subset _ hx)
    · rw [List.takeWhile_cons_of_neg (by simpa using before),
        List.dropWhile_cons_of_neg (by simpa using before), List.nil_append, List.pairwise_cons]
      refine ⟨fun x hx => ?_, List.pairwise_cons.mpr ⟨first, sorted⟩⟩
      rcases List.mem_cons.mp hx with rfl | hx
      · exact Nat.le_of_not_le before
      · exact Nat.le_trans (Nat.le_of_not_le before) (first x hx)

end World

variable {kept : String → Prop} {w w' : World} {path : String}

/-- A file that is left alone and that no alarm is about stays as it is. -/
theorem Aside.beside (aside : Aside kept w w') (keeps : kept path) (sheltered : w.Sheltered path) :
    w'.Sheltered path ∧ Beside path w.files w'.files := by
  cases aside with
  | time deadline watch =>
    refine World.pass_induction
      (I := fun now => now.Sheltered path ∧ Beside path w.files now.files) ?_ ?_
      ⟨sheltered, .refl path w.files⟩ deadline watch
    · intro m time alarm rest first ⟨sheltered, beside⟩
      have apart : alarm.Apart m.files path :=
        sheltered (time, alarm) (by rw [first]; exact List.mem_cons_self)
      have fired := World.fire_beside (w := { m with now := max m.now time, alarms := rest }) apart
      refine ⟨fun e he => ?_, beside.trans fired⟩
      rw [(World.fire_times _ alarm).alarms] at he
      exact (sheltered e (by rw [first]; exact List.mem_cons_of_mem _ he)).congr fired.home
    · intro m now _ _ h
      exact h
  | alarm time alarm apart =>
    refine ⟨fun e he => ?_, .refl path w.files⟩
    rcases World.mem_setAlarm.mp he with rfl | he
    · exact apart path keeps
    · exact sheltered e he
  | work times beside =>
    have left := beside path keeps
    exact ⟨sheltered.congr times.alarms left.home, left⟩

theorem Aside.sorted (aside : Aside kept w w') (sorted : w.alarms.Pairwise (·.1 ≤ ·.1)) :
    w'.alarms.Pairwise (·.1 ≤ ·.1) := by
  cases aside with
  | time deadline watch => exact World.pass_sorted sorted deadline watch
  | alarm time alarm _ => exact World.setAlarm_sorted sorted time alarm
  | work times _ => rwa [times.alarms]

theorem Aside.retention (aside : Aside kept w w') : w'.retention = w.retention := by
  cases aside with
  | time deadline watch => exact World.pass_retention w deadline watch
  | alarm time alarm _ => rfl
  | work times _ => exact times.retention

/-- Whatever happens beside a run, one thing after another. -/
abbrev Meanwhile (kept : String → Prop) : World → World → Prop :=
  Relation.ReflTransGen (Aside kept)

namespace Meanwhile

theorem beside (meanwhile : Meanwhile kept w w') (keeps : kept path) (sheltered : w.Sheltered path) :
    w'.Sheltered path ∧ Beside path w.files w'.files := by
  induction meanwhile with
  | refl => exact ⟨sheltered, .refl path w.files⟩
  | tail _ last ih =>
    obtain ⟨sheltered, beside⟩ := last.beside keeps ih.1
    exact ⟨sheltered, ih.2.trans beside⟩

theorem sorted (meanwhile : Meanwhile kept w w') (sorted : w.alarms.Pairwise (·.1 ≤ ·.1)) :
    w'.alarms.Pairwise (·.1 ≤ ·.1) := by
  induction meanwhile with
  | refl => exact sorted
  | tail _ last ih => exact last.sorted ih

theorem retention (meanwhile : Meanwhile kept w w') : w'.retention = w.retention := by
  induction meanwhile with
  | refl => rfl
  | tail _ last ih => exact last.retention.trans ih

end Meanwhile

/-- A file of some content that is to be removed at a time: no other alarm is about it, it is there
until that time, and then it is gone. -/
structure Doomed (path : String) (time : Nat) (content : Option Bytes) (w : World) : Prop where
  sorted : w.alarms.Pairwise (·.1 ≤ ·.1)
  alarms : ∀ e ∈ w.alarms, e = (time, .remove path) ∨ e.2.Apart w.files path
  state : (w.now ≤ time ∧ (time, .remove path) ∈ w.alarms ∧ Tended path w.files ∧
    w.files.fileAt path = content) ∨ time ≤ w.now ∧ w.files.fileAt path = none

namespace Doomed

variable {time : Nat} {content : Option Bytes}

theorem of_beside (doomed : Doomed path time content w) (beside : Beside path w.files w'.files)
    (now : w'.now = w.now) (sorted : w'.alarms.Pairwise (·.1 ≤ ·.1))
    (old : ∀ e ∈ w.alarms, e ∈ w'.alarms)
    (alarms : ∀ e ∈ w'.alarms, e ∈ w.alarms ∨ e.2.Apart w.files path) :
    Doomed path time content w' where
  sorted := sorted
  alarms e he := by
    rcases alarms e he with was | apart
    · exact (doomed.alarms e was).imp_right (·.congr beside.home)
    · exact Or.inr (apart.congr beside.home)
  state := by
    rw [now, beside.file]
    refine doomed.state.imp_left ?_
    rintro ⟨early, set, tended, there⟩
    exact ⟨early, old _ set, tended.beside beside, there⟩

theorem fire (doomed : Doomed path time content w) {due : Nat} {alarm : Alarm}
    {rest : List (Nat × Alarm)} (first : w.alarms = (due, alarm) :: rest) :
    Doomed path time content ({ w with now := max w.now due, alarms := rest }.fire alarm) := by
  have times := World.fire_times { w with now := max w.now due, alarms := rest } alarm
  have sorted := doomed.sorted
  rw [first] at sorted
  obtain ⟨before, kept⟩ := List.pairwise_cons.mp sorted
  have left : ∀ e ∈ rest, e = (time, .remove path) ∨ e.2.Apart w.files path :=
    fun e he => doomed.alarms e (by rw [first]; exact List.mem_cons_of_mem _ he)
  rcases doomed.alarms (due, alarm) (by rw [first]; exact List.mem_cons_self) with own | apart
  · obtain ⟨rfl, rfl⟩ := Prod.mk.inj own
    have tended : Tended path w.files := doomed.state.elim (·.2.2.1) (tended_of_none ·.2)
    refine ⟨kept, fun e he => ?_, Or.inr ⟨Nat.le_max_right .., Disk.fileAt_discard tended⟩⟩
    exact (left e he).imp_right (·.congr (Disk.spares_discard w.files path).home)
  · have beside : Beside path w.files
        (World.fire { w with now := max w.now due, alarms := rest } alarm).files :=
      World.fire_beside (w := { w with now := max w.now due, alarms := rest }) apart
    refine ⟨by rwa [times.alarms], fun e he => ?_, ?_⟩
    · rw [times.alarms] at he
      exact (left e he).imp_right (·.congr beside.home)
    rw [times.now, times.alarms, beside.file]
    rcases doomed.state with ⟨early, set, tended, there⟩ | ⟨late, gone⟩
    · -- What is due later than this alarm still has its own.
      have set : (time, .remove path) ∈ rest := by
        rw [first] at set
        rcases List.mem_cons.mp set with same | set
        · obtain ⟨-, rfl⟩ := Prod.mk.inj same
          exact absurd rfl apart
        · exact set
      exact Or.inl ⟨Nat.max_le.mpr ⟨early, before _ set⟩, set, tended.beside beside, there⟩
    · exact Or.inr ⟨Nat.le_trans late (Nat.le_max_left ..), gone⟩

theorem aside (doomed : Doomed path time content w) (aside : Aside kept w w') (keeps : kept path) :
    Doomed path time content w' := by
  cases aside with
  | time deadline watch =>
    refine World.pass_induction (fun m _ _ _ first doomed => fire doomed first) ?_ doomed deadline watch
    intro m now later early doomed
    refine ⟨doomed.sorted, doomed.alarms, ?_⟩
    rcases doomed.state with ⟨-, set, rest⟩ | ⟨late, gone⟩
    · -- The clock does not go beyond the first alarm, which is no later than the file's own.
      obtain ⟨e, others, first⟩ := List.exists_cons_of_ne_nil (List.ne_nil_of_mem set)
      have sorted := doomed.sorted
      rw [first] at sorted
      have reached : now ≤ e.1 := early e (by rw [first]; rfl)
      have due : e.1 ≤ time := by
        rcases List.mem_cons.mp (first ▸ set) with rfl | set
        · exact Nat.le_refl _
        · exact List.rel_of_pairwise_cons sorted set
      exact Or.inl ⟨Nat.le_trans reached due, set, rest⟩
    · exact Or.inr ⟨Nat.le_trans late later, gone⟩
  | alarm due alarm apart =>
    refine doomed.of_beside (.refl path w.files) rfl (World.setAlarm_sorted doomed.sorted due alarm)
      (fun e was => World.mem_setAlarm.mpr (Or.inr was)) fun e he => ?_
    rcases World.mem_setAlarm.mp he with rfl | was
    · exact Or.inr (apart path keeps)
    · exact Or.inl was
  | work times beside =>
    refine doomed.of_beside (beside path keeps) times.now ?_ ?_ ?_
    · rw [times.alarms]
      exact doomed.sorted
    · rw [times.alarms]
      exact fun e was => was
    · rw [times.alarms]
      exact fun e was => Or.inl was

theorem meanwhile (doomed : Doomed path time content w) (meanwhile : Meanwhile kept w w')
    (keeps : kept path) : Doomed path time content w' := by
  induction meanwhile with
  | refl => exact doomed
  | tail _ last ih => exact ih.aside last keeps

end Doomed

/-- Whether a file stays as it is for some time after a world, whatever happens, and is gone after that. -/
def Lasts (kept : String → Prop) (path : String) (ms : Nat) (content : Option Bytes) (w : World) :
    Prop :=
  ∀ later, Meanwhile kept w later →
    (later.now < w.now + ms → later.files.fileAt path = content) ∧
      (w.now + ms < later.now → later.files.fileAt path = none)

theorem Doomed.lasts {ms : Nat} {content : Option Bytes} (doomed : Doomed path (w.now + ms) content w)
    (keeps : kept path) : Lasts kept path ms content w := by
  intro later meanwhile
  rcases (doomed.meanwhile meanwhile keeps).state with ⟨early, -, -, there⟩ | ⟨late, gone⟩
  · exact ⟨fun _ => there, fun past => absurd past (Nat.not_lt.mpr early)⟩
  · exact ⟨fun before => absurd before (Nat.not_lt.mpr late), fun _ => gone⟩

theorem lasts_of_none (keeps : kept path) (sheltered : w.Sheltered path)
    (none : w.files.fileAt path = none) {later : World} (meanwhile : Meanwhile kept w later) :
    later.files.fileAt path = .none :=
  (meanwhile.beside keeps sheltered).2.file.trans none

/-- Without a retention a file that is given up goes at once, and with one an alarm is set for it. -/
theorem world_dispose (w : World) (path : String) : (dispose path w).world =
    match w.retention with
    | none => w.discard path
    | some ms => w.setAlarm (w.now + ms) (.remove path) := by
  show Outcome.world ((match w.retention with
    | none => Activity.onFiles fun files => ((), (files.remove path).toOption.getD files)
    | some ms => Activity.act fun w => ((), w.setAlarm (w.now + ms) (.remove path))) w) = _
  cases w.retention <;> rfl

end Courier.Sandbox
