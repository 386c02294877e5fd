import Courier.Proofs.Article.Crowd
import Courier.Proofs.Retry.Attempts
import Courier.Proofs.Sandbox.Play
import Courier.Proofs.Sandbox.Removal
import Courier.Proofs.Transfer.Asking
import Courier.Sandbox.Gather

/-! The images of an article in a world in memory. Whatever the scripts of the world make of its answers,
the job of an image moves on as one image among others. -/
namespace Courier.Sandbox

open Article (Supply Stock Move Target Image)
open Relation (ReflTransGen)

/-- Whether the calls of a script can fail and be late, but never make anything up. -/
def Script.IsPlain (script : Script) : Prop :=
  ∀ fault ∈ script, ∀ bytes, fault.effect ≠ .give bytes

theorem Script.IsPlain.next {script : Script} (plain : script.IsPlain) :
    (∀ bytes, script.next.1.effect ≠ .give bytes) ∧ script.next.2.IsPlain := by
  cases script with
  | nil => exact ⟨nofun, nofun⟩
  | cons fault rest =>
    exact ⟨plain fault List.mem_cons_self, fun other mem => plain other (List.mem_cons_of_mem _ mem)⟩

/-- What a shelf holds after some entries. -/
def kept (stored : List (Medium × String × Bytes)) : List (String × Bytes) :=
  stored.foldl (fun saved e => (e.2.1, e.2.2) :: saved.filter (·.1 != e.2.1)) []

/-- Whether a world shows a stock: its files, and one shelf for the storage. -/
structure Shows (env : Supply) (number : Nat) (w : World) (s : Stock) : Prop where
  files : w.files = s.files
  shelf : ∃ shelf, w.shelf? number = some shelf ∧ shelf.script.IsPlain ∧ shelf.saved = kept s.stored
  script : w.gallery.imageScript.IsPlain
  images : ∀ e ∈ w.gallery.images, e.2 = env.bytes e.1
  retention : env.prompt = w.retention.isNone
  alarms : ∀ e ∈ w.alarms, ∀ path, e.2 = .remove path → path ∈ s.handed
  cancelable : env.cancelable = true

variable {env : Supply} {number : Nat} {w w' : World} {s s' : Stock} {policy : RetryPolicy}
  {target : Target} {image : Image}

namespace Shows

theorem cancel (shows : Shows env number w s) (task : TaskId) : Shows env number (w.cancel task) s := by
  unfold World.cancel
  split
  · exact shows
  · exact { shows with }

theorem setShelf (shows : Shows env number w s) {f : Shelf → Shelf}
    (plain : ∀ shelf, shelf.script.IsPlain → (f shelf).script.IsPlain)
    (saved : ∀ shelf, shelf.saved = kept s.stored → (f shelf).saved = kept s'.stored)
    (files : s'.files = s.files) (handed : s'.handed = s.handed) :
    Shows env number (w.setShelf number f) s' := by
  obtain ⟨shelf, here, isPlain, holds⟩ := shows.shelf
  refine ⟨shows.files.trans files.symm, ⟨f shelf, ?_, plain shelf isPlain, saved shelf holds⟩,
    shows.script, shows.images, shows.retention, handed ▸ shows.alarms, shows.cancelable⟩
  rw [World.shelf?] at here
  simp [World.shelf?, World.setShelf, here]

theorem setShelf_same (shows : Shows env number w s) {f : Shelf → Shelf}
    (plain : ∀ shelf, shelf.script.IsPlain → (f shelf).script.IsPlain)
    (saved : ∀ shelf, (f shelf).saved = shelf.saved) : Shows env number (w.setShelf number f) s :=
  shows.setShelf plain (fun shelf holds => (saved shelf).trans holds) rfl rfl

theorem fire (shows : Shows env number w s) {alarm : Alarm}
    (given : ∀ path, alarm = .remove path → path ∈ s.handed) :
    ∃ s', Shows env number (w.fire alarm) s' ∧
      (s' = s ∨ ∃ path ∈ s.handed, s' = { s with files := Disk.discard s.files path }) := by
  cases alarm with
  | cancel task => exact ⟨s, shows.cancel task, .inl rfl⟩
  | remove path =>
    refine ⟨{ s with files := Disk.discard s.files path }, ?_, .inr ⟨path, given path rfl, rfl⟩⟩
    have files : (w.fire (.remove path)).files = Disk.discard s.files path := by
      rw [← shows.files]
      rfl
    exact { shows with files }

end Shows

/-- One move of an image, as a step of its part. -/
def Moves (env : Supply) (policy : RetryPolicy) (target : Target) (image : Image)
    (a b : Stock × Article.Status) : Prop :=
  Move env policy target image a.1 a.2 b.1 b.2

section Answers

variable (env : Supply) (number : Nat) (policy : RetryPolicy) (target : Target) (image : Image)

/-- Whether an activity does not move an image on, and comes to something of a kind. -/
def Rests {α : Type} (P : α → Prop) (p : Activity α) : Prop :=
  ∀ k, p.Plays (Shows env number) (Moves env policy target image) (· = k) (fun a l => l = k ∧ P a) k

/-- Whether an activity moves an image on by a request that is answered. -/
def Serves (r : Request) (p : Activity r.Reply) : Prop :=
  ∀ (next : r.Reply → Job (Except TransferError Unit)) (read : Option Bytes),
    p.Plays (Shows env number) (Moves env policy target image) (·.isRunning = true)
      (fun reply k => k = .running (next reply) none) (.running (.ask r next) read)

variable {env number policy target image}

theorem rests_pure {α : Type} {P : α → Prop} {a : α} (holds : P a) :
    Rests env number policy target image P (pure a) :=
  fun _ => Activity.plays_pure ⟨rfl, holds⟩

theorem Rests.bind {α β : Type} {P : α → Prop} {Q : β → Prop} {p : Activity α} {f : α → Activity β}
    (rests : Rests env number policy target image P p)
    (goesOn : ∀ a, P a → Rests env number policy target image Q (f a)) :
    Rests env number policy target image Q (p >>= f) :=
  fun k => (rests k).bind fun a l ⟨same, holds⟩ => same ▸ goesOn a holds l

theorem rests_act {α : Type} {P : α → Prop} {f : World → α × World}
    (acts : ∀ w s, Shows env number w s → Shows env number (f w).2 s ∧ P (f w).1) :
    Rests env number policy target image P (Activity.act f) :=
  fun k => Activity.plays_act fun w s shows => ⟨s, k, .refl, (acts w s shows).1, rfl, (acts w s shows).2⟩

theorem rests_look {α : Type} {P : α → Prop} {f : World → α}
    (holds : ∀ w s, Shows env number w s → P (f w)) :
    Rests env number policy target image P (Activity.look f) :=
  fun _ => Activity.plays_look fun w s shows => ⟨rfl, holds w s shows⟩

theorem rests_sleep (ms : Nat) :
    Rests env number policy target image (fun _ => True) (Activity.sleep ms) :=
  fun _ => Activity.plays_sleep ms rfl ⟨rfl, trivial⟩

theorem rests_sleepUnless (task : TaskId) (ms : Nat) :
    Rests env number policy target image (fun _ => True) (Activity.sleepUnless task ms) :=
  fun _ => Activity.plays_sleepUnless task ms rfl fun _ => ⟨rfl, trivial⟩

/-- What moves an image on may come after an activity that does not. -/
theorem Rests.goesOn {α β : Type} {P : α → Prop} {E : β → Article.Status → Prop} {p : Activity α}
    {f : α → Activity β} {k : Article.Status} (rests : Rests env number policy target image P p)
    (runs : k.isRunning = true)
    (goesOn : ∀ a, P a → (f a).Plays (Shows env number) (Moves env policy target image)
      (·.isRunning = true) E k) :
    (p >>= f).Plays (Shows env number) (Moves env policy target image) (·.isRunning = true) E k := by
  have first : p.Plays (Shows env number) (Moves env policy target image) (·.isRunning = true)
      (fun a l => l = k ∧ P a) k :=
    (rests k).imp (fun l same => same ▸ runs) fun a l ended w s shows => ⟨s, l, .refl, shows, ended⟩
  exact first.bind fun a l ⟨same, holds⟩ => same ▸ goesOn a holds

theorem rests_fault {task : Option TaskId} {take : World → Fault × World}
    (takes : ∀ w s, Shows env number w s →
      Shows env number (take w).2 s ∧ ∀ bytes, (take w).1.effect ≠ .give bytes) :
    Rests env number policy target image (fun effect => ∀ bytes, effect ≠ .give bytes)
      (fault task take) := by
  refine (rests_act (P := fun entry => ∀ bytes, entry.effect ≠ .give bytes) takes).bind
    fun entry plain => ?_
  refine (rests_sleep entry.delay).bind fun _ _ => ?_
  dsimp only
  split
  · split
    · exact (rests_act (P := fun _ => True) fun w s shows => ⟨shows.cancel _, trivial⟩).bind
        fun _ _ => rests_pure plain
    · exact rests_pure plain
  · exact rests_pure plain

theorem Rests.race {α : Type} {P : α → Prop} {p : Activity α} {task : TaskId}
    (rests : Rests env number policy target image P p) :
    Rests env number policy target image (fun a => ∀ b, a = some b → P b) (Activity.race task p) := by
  intro k
  refine (rests k).race (fun a l ended => ⟨ended.1, fun b same => ?_⟩)
    (fun l same => ⟨same, nofun⟩) ⟨rfl, nofun⟩
  exact Option.some.inj same ▸ ended.2

theorem Rests.serves {r : Request} {P : r.Reply → Prop} {p : Activity r.Reply}
    (rests : Rests env number policy target image P p)
    (answers : ∀ reply, P reply → ∀ w s, Shows env number w s →
      ∃ s', env.answers s r reply s' ∧ Shows env number w s') :
    Serves env number policy target image r p := by
  intro next read
  refine (rests _).imp (fun k same => by rw [same]; rfl) fun reply k ⟨same, holds⟩ w s shows => ?_
  obtain ⟨s', answered, shows'⟩ := answers reply holds w s shows
  subst same
  exact ⟨s', _, .single (Move.answer reply answered), shows', rfl⟩

theorem serves_canceled (task : TaskId) :
    Serves env number policy target image .canceled (Activity.look (·.isCanceled task)) :=
  Rests.serves (P := fun _ => True) (rests_look fun _ _ _ => trivial) fun _ _ _ s shows =>
    ⟨s, ⟨rfl, fun _ => shows.cancelable⟩, shows⟩

theorem image_genuine {gallery : Gallery} {bytes : String → Bytes}
    (images : ∀ e ∈ gallery.images, e.2 = bytes e.1) (link : String) :
    (gallery.image link).2.imageScript = gallery.imageScript ∧
      (gallery.image link).2.images = gallery.images ∧
      ∀ content, (gallery.image link).1 = .ok content → content = bytes link := by
  unfold Gallery.image
  dsimp only
  split
  · exact ⟨rfl, rfl, nofun⟩
  · split
    · next other content found =>
      refine ⟨rfl, rfl, fun same given => ?_⟩
      obtain rfl := Except.ok.inj given
      have named : other = link := by simpa using List.find?_some found
      have own : content = bytes other := images _ (List.mem_of_find?_eq_some found)
      rw [own, named]
    · exact ⟨rfl, rfl, nofun⟩

theorem rests_fetchImage (token : Option TaskId) (link : String) :
    Rests env number policy target image
      (fun reply => ∀ bytes, reply = .ok bytes → bytes = env.bytes link)
      (fetchImage token link) := by
  unfold fetchImage
  refine (rests_fault ?_).bind fun effect plain => ?_
  · intro w s shows
    obtain ⟨given, rest⟩ := shows.script.next
    exact ⟨{ shows with script := rest }, given⟩
  · cases effect with
    | pass =>
      show Rests _ _ _ _ _ _ (Activity.act fun w =>
        ((w.gallery.image link).1, { w with gallery := (w.gallery.image link).2 }))
      refine rests_act fun w s shows => ?_
      obtain ⟨script, images, genuine⟩ := image_genuine shows.images link
      refine ⟨⟨shows.files, shows.shelf, ?_, ?_, shows.retention, shows.alarms, shows.cancelable⟩,
        genuine⟩
      · exact script ▸ shows.script
      · exact images ▸ shows.images
    | fail e => exact rests_pure nofun
    | give bytes => exact absurd rfl (plain bytes)

theorem serves_image (task : TaskId) (token : Option TaskId) (link : String) :
    Serves env number policy target image (.image link) (Activity.race task (fetchImage token link)) := by
  refine (rests_fetchImage token link).race.serves fun reply genuine w s shows => ?_
  exact ⟨_, ⟨rfl, fun _ => shows.cancelable, fun bytes same => genuine _ same bytes rfl⟩, { shows with }⟩

theorem serves_writeFile (path : String) (content : Bytes) :
    Serves env number policy target image (.writeFile path content)
      (Activity.changeFiles (·.write path content)) := by
  intro next read
  refine Activity.plays_onFiles fun w s shows => ?_
  dsimp only
  split
  · next files written =>
    have answered : env.answers s (.writeFile path content) (Except.ok ()) { s with files } :=
      ⟨files, rfl, shows.files ▸ FileTree.spares_write written, fun _ => FileTree.read_write written⟩
    exact ⟨{ s with files }, _, .single (Move.answer _ answered), { shows with files := rfl }, rfl, rfl⟩
  · next e failed =>
    have answered : env.answers s (.writeFile path content) (Except.error e) s :=
      ⟨s.files, rfl, .refl _ _, nofun⟩
    exact ⟨s, _, .single (Move.answer _ answered), { shows with }, rfl, rfl⟩

theorem serves_dispose (path : String) :
    Serves env number policy target image (.dispose path) (dispose path) := by
  intro next read
  unfold dispose
  have looked : (Activity.look (·.retention)).Plays (Shows env number) (Moves env policy target image)
      (·.isRunning = true) (fun retention k => k = .running (.ask (.dispose path) next) read ∧
        env.prompt = retention.isNone) (.running (.ask (.dispose path) next) read) :=
    Activity.plays_look fun w s shows => ⟨rfl, shows.retention⟩
  refine looked.bind fun retention k ⟨same, prompt⟩ => ?_
  subst same
  cases retention with
  | none =>
    refine Activity.plays_onFiles fun w s shows => ?_
    have answered : env.answers s (.dispose path) () { s with files := Disk.discard s.files path } := by
      simp [Supply.answers, prompt]
    refine ⟨_, _, .single (Move.answer () answered), { shows with files := ?_ }, rfl, rfl⟩
    exact congrArg (Disk.discard · path) shows.files
  | some ms =>
    refine Activity.plays_act fun w s shows => ?_
    have answered : env.answers s (.dispose path) () { s with handed := s.handed ++ [path] } := by
      simp [Supply.answers, prompt]
    refine ⟨_, _, .single (Move.answer () answered),
      { shows with alarms := fun e mem other same => ?_ }, rfl⟩
    rcases World.mem_setAlarm.mp mem with rfl | old
    · obtain rfl := Alarm.remove.inj same
      exact List.mem_append_right _ (List.mem_singleton_self _)
    · exact List.mem_append_left _ (shows.alarms e old other same)

theorem shows_takeShelfFault (shows : Shows env number w s) :
    Shows env number (takeShelfFault number w).2 s ∧
      ∀ bytes, (takeShelfFault number w).1.effect ≠ .give bytes := by
  obtain ⟨shelf, here, plain, -⟩ := shows.shelf
  unfold takeShelfFault
  rw [here]
  exact ⟨shows.setShelf_same (fun shelf plain => plain.next.2) fun _ => rfl, plain.next.1⟩

/-- How far an image is when the storage has done what it could: its file has been put down, or the save
is still to be answered. -/
def Kept {medium : Medium} {localPath path : String}
    (next : (Request.save medium localPath path).Reply → Job (Except TransferError Unit)) :
    Except CallError Unit → Article.Status → Prop
  | .ok (), k => k = .running (next (.ok ())) none
  | .error _, k => ∃ read, k = .running (.ask (.save medium localPath path) next) read

theorem plays_keep (task : TaskId) (attempt : Nat) {localPath path : String}
    (next : (Request.save (.backend number) localPath path).Reply → Job (Except TransferError Unit))
    (read : Option Bytes) :
    (shelve.keep task number localPath path attempt).Plays (Shows env number)
      (Moves env policy target image) (·.isRunning = true) (Kept next)
      (.running (.ask (.save (.backend number) localPath path) next) read) := by
  unfold shelve.keep
  refine (rests_look (P := fun _ => True) fun _ _ _ => trivial).goesOn rfl fun delay _ => ?_
  refine (rests_sleepUnless task delay).goesOn rfl fun canceled _ => ?_
  split
  · exact Activity.plays_pure ⟨read, rfl⟩
  refine (rests_act (P := fun _ => True) fun w s shows => ⟨?_, trivial⟩).goesOn rfl fun fails _ => ?_
  · exact shows.setShelf_same (fun shelf plain => plain) fun _ => rfl
  split
  · exact Activity.plays_pure ⟨read, rfl⟩
  have reads : (readFiles (·.read localPath)).Plays (Shows env number)
      (Moves env policy target image) (·.isRunning = true)
      (fun found k => ∃ read, k = .running (.ask (.save (.backend number) localPath path) next) read ∧
        ∀ content, found = .ok content → read = some content)
      (.running (.ask (.save (.backend number) localPath path) next) read) := by
    refine Activity.plays_onFiles fun w s shows => ?_
    dsimp only
    cases found : w.files.read localPath with
    | error e => exact ⟨s, _, .refl, { shows with }, rfl, read, rfl, nofun⟩
    | ok content =>
      have picked : s.files.read localPath = .ok content := shows.files ▸ found
      refine ⟨s, _, .single (Move.pickUp picked), { shows with }, rfl, some content, rfl, ?_⟩
      exact fun other same => congrArg some (Except.ok.inj same)
  refine reads.bind fun found k ⟨read, same, has⟩ => ?_
  subst same
  cases found with
  | error e => exact Activity.plays_pure ⟨read, rfl⟩
  | ok content =>
    obtain rfl := has content rfl
    have put : (Activity.act fun w => ((), w.setShelf number fun s => s.put path content)).Plays
        (Shows env number) (Moves env policy target image) (·.isRunning = true)
        (fun _ k => k = .running (next (.ok ())) none)
        (.running (.ask (.save (.backend number) localPath path) next) (some content)) := by
      refine Activity.plays_act fun w s shows => ⟨_, _, .single Move.putDown, ?_, rfl⟩
      refine shows.setShelf (fun shelf plain => plain) (fun shelf holds => ?_) rfl rfl
      simp [Shelf.put, holds, kept]
    exact put.bind fun _ k same => Activity.plays_pure same

theorem serves_save (task : TaskId) (localPath path : String) :
    Serves env number policy target image (.save (.backend number) localPath path)
      (save task (.backend number) localPath path) := by
  intro next read
  unfold save
  refine (rests_fault fun w s => shows_takeShelfFault).goesOn rfl fun effect plain => ?_
  have fails (e : CallError) (read : Option Bytes) (w : World) (s : Stock)
      (shows : Shows env number w s) :
      ∃ s' k, ReflTransGen (Moves env policy target image)
          (s, .running (.ask (.save (.backend number) localPath path) next) read) (s', k) ∧
        Shows env number w s' ∧ k = .running (next (.error e)) none :=
    ⟨s, _, .single (Move.answer (Except.error e) ⟨rfl, nofun⟩), shows, rfl⟩
  cases effect with
  | give bytes => exact absurd rfl (plain bytes)
  | fail e => exact fun w s shows => fails e read w s shows
  | pass =>
    unfold shelve
    refine (rests_act (P := fun _ => True) fun w s shows => ⟨?_, trivial⟩).goesOn rfl fun attempt _ => ?_
    · exact shows.setShelf_same (fun shelf plain => plain) fun _ => rfl
    refine (plays_keep task attempt next read).bind fun result k ended => ?_
    have runs : k.isRunning = true := by
      cases result with
      | ok => exact (show k = _ from ended) ▸ rfl
      | error e =>
        obtain ⟨read, same⟩ := ended
        exact same ▸ rfl
    refine (rests_act (P := fun _ => True) fun w s shows => ⟨?_, trivial⟩).goesOn runs fun _ _ => ?_
    · exact shows.setShelf_same (fun shelf plain => plain) fun _ => rfl
    cases result with
    | ok => exact Activity.plays_pure ended
    | error e =>
      obtain ⟨read, rfl⟩ := ended
      exact fun w s shows => fails e read w s shows

/-- What the job of an image asks for if its storage is a shelf. -/
def Asked (number : Nat) : Request → Prop
  | .canceled | .image _ | .writeFile .. | .dispose _ => True
  | .save medium .. => medium = .backend number
  | _ => False

theorem hasSave_asked (image : Image) (medium : target.medium = .backend number) :
    image.HasSave target (Asked number) where
  canceled := trivial
  fetch := trivial
  writeFile _ := trivial
  save := medium
  dispose := trivial

theorem answer_serves (task : TaskId) (token : Option TaskId) {r : Request} (asked : Asked number r) :
    Serves env number policy target image r (answer task token r) := by
  cases r with
  | canceled => exact serves_canceled task
  | image link => exact serves_image task token link
  | writeFile path content => exact serves_writeFile path content
  | dispose path => exact serves_dispose path
  | save medium localPath path =>
    obtain rfl : medium = .backend number := asked
    exact serves_save task localPath path
  | _ => exact asked.elim

/-- A job that is run in a world plays its part to the end. -/
theorem runJob_plays {task : TaskId} {token : Option TaskId} {job : Job (Except TransferError Unit)}
    (asks : job.Asks (Asked number)) (read : Option Bytes) :
    (runJob (answer task token) job).Plays (Shows env number) (Moves env policy target image)
      (·.isRunning = true) (fun result k => ∃ read, k = .running (.done result) read)
      (.running job read) := by
  induction job generalizing read with
  | done result => exact fun w s shows => ⟨s, _, .refl, shows, read, rfl⟩
  | ask r next ih =>
    intro w s shows
    refine (answer_serves task token asks.1 next read w s shows).bind fun reply k same => ?_
    subst same
    exact ih reply (asks.2 reply) none

end Answers

end Courier.Sandbox
