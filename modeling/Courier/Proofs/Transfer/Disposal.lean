import Courier.Proofs.Path.MadeUp
import Courier.Proofs.Sandbox.Removal
import Courier.Proofs.Transfer.Asking
import Courier.Proofs.Transfer.Cancellation
import Courier.Proofs.Transfer.Delivery

/-! The cache file of a transfer. A transfer works on no file of the cache directory but its own, and
however it ends, its own is gone in the end: at once, or when the time has come that it is kept for. -/
namespace Courier.Transfer

open Answering (follows_append)
open FileTree (Beside Spares Tended tended_of_none)
open Courier.Path (IsName)
open Sandbox (Aside Doomed Lasts Meanwhile SameTimes World)

def cacheFile (engine : Engine) (task : Task) : String :=
  Path.below engine.cacheDir (cacheName task.id (prepared task).fileName)

/-- Questions that give up no file, and that work on no file but this one. -/
def WorksOn (path : Option String) : Request → Prop
  | .createFile other | .appendFile other _ | .writeFile other _ => path = some other
  | .dispose _ => False
  | _ => True

theorem hasWork_worksOn (medium : Medium) (path : String) :
    HasWork medium path (WorksOn (some path)) where
  canceled := trivial
  fetchChunk _ _ _ := trivial
  fetchWhole _ _ := trivial
  progress _ _ _ := trivial
  createFile := rfl
  appendFile _ := rfl
  writeFile _ := rfl
  readHead _ := trivial
  save _ := trivial

variable {engine : Engine} {task task' : Task} {file : RemoteFile} {chat post : Int} {stage : Stage}
  {t : List Exchange}

/-- A routed transfer cannot make its directory, or it gives its cache file up when it has ended. -/
theorem work_disposes {medium : Medium} (message : task.origin = .message file chat post)
    (ran : (work engine task medium).Trace t (task', stage)) :
    (∃ result, stage = .ended result) ∧ ((∀ x ∈ t, WorksOn none x.1) ∨
      ∃ front, t = front ++ [⟨.dispose (Path.below engine.cacheDir (cacheName task.id file.name)), ()⟩] ∧
        ∀ x ∈ front, WorksOn (some (Path.below engine.cacheDir (cacheName task.id file.name))) x.1) := by
  rcases works_of_message message ran with ⟨e, rfl, -, rfl⟩ | ⟨t₁, result, rfl, rfl, carrying⟩
  · exact ⟨⟨_, rfl⟩, Or.inl (by simp [WorksOn])⟩
  · refine ⟨⟨_, rfl⟩, Or.inr ⟨⟨.makeDirectories engine.cacheDir, .ok ()⟩ :: t₁, rfl, ?_⟩⟩
    intro x hx
    rcases List.mem_cons.mp hx with rfl | hx
    · trivial
    · exact (carry_asks _ _ _ (hasWork_worksOn ..)).forall_mem carrying x hx

theorem cachePath_routed (message : task.origin = .message file chat post) (route : Route) :
    Path.below engine.cacheDir (cacheName (routed (prepared task) route).id
      (if file.name.isEmpty then file.fallbackName chat post else file.name)) =
      cacheFile engine task := by
  have id : (routed (prepared task) route).id = task.id := (keeps_prepared task).1
  have name := congrArg Origin.fileName (prepared_spec message).1
  rw [id, cacheFile, Task.fileName, name]
  rfl

/-- A transfer ends without having worked on any file, or it gives its cache file up at its end and has
worked on no other. -/
theorem run_disposes (message : task.origin = .message file chat post)
    (ran : (run engine task).Trace t (task', stage)) :
    (∃ result, stage = .ended result) ∧ ((∀ x ∈ t, WorksOn none x.1) ∨
      ∃ front, t = front ++ [⟨.dispose (cacheFile engine task), ()⟩] ∧
        ∀ x ∈ front, WorksOn (some (cacheFile engine task)) x.1) := by
  have routing {t : List Exchange} {result : Except TransferError Route}
      (resolving : (Router.resolve engine.libraries.patterns engine.registry (prepared task)).Trace t result)
      (path : Option String) : ∀ x ∈ ⟨.canceled, false⟩ :: t, WorksOn path x.1 :=
    forall_mem_of_resolving trivial (fun _ _ => trivial) (fun _ _ _ => trivial) resolving
  cases runs_of_trace ran with
  | canceled => exact ⟨⟨_, rfl⟩, Or.inl (by simp [WorksOn])⟩
  | unrouted resolving =>
    exact ⟨⟨_, rfl⟩, Or.inl (routing resolving none)⟩
  | @working t₁ _ route _ _ resolving working =>
    have origin := show (routed (prepared task) route).origin = _ from (prepared_spec message).1
    obtain ⟨ended, disposed⟩ := work_disposes origin working
    rw [cachePath_routed message route] at disposed
    refine ⟨ended, disposed.imp ?_ ?_⟩
    · intro quiet x hx
      rw [← List.cons_append] at hx
      exact (List.mem_append.mp hx).elim (routing resolving none x) (quiet x)
    · rintro ⟨front, rfl, works⟩
      refine ⟨⟨.canceled, false⟩ :: t₁ ++ front, by simp, fun x hx => ?_⟩
      exact (List.mem_append.mp hx).elim (routing resolving _ x) (works x)

/-- How the files are left by what a question asks for. It may be done in part or not at all when it
fails. Storages keep away from some paths. -/
def Acts (kept : String → Prop) (w : World) : Request → World → Prop
  | .createFile path, w' | .appendFile path _, w' | .writeFile path _, w' =>
    SameTimes w w' ∧ Spares path w.files w'.files
  | .makeDirectories _, w' => SameTimes w w' ∧ ∀ path, Beside path w.files w'.files
  | .save .., w' => SameTimes w w' ∧ ∀ path, kept path → Beside path w.files w'.files
  | .dispose path, w' => w' = (Sandbox.dispose path w).world
  | _, w' => SameTimes w w' ∧ w'.files = w.files

/-- A world in which everything may fail, and much may happen before a question is answered; only the
files at some paths are left alone by all others. -/
def serves (kept : String → Prop) : Answering World := fun w r _ w' =>
  ∃ m, Meanwhile kept w m ∧ Acts kept m r w'

section Serves

variable {kept : String → Prop} {w w' : World} {path : String} {r : Request} {reply : r.Reply}

theorem acts_times (acts : Acts kept w r w') (stays : ∀ path, r ≠ .dispose path) : SameTimes w w' := by
  cases r with
  | dispose path => exact absurd rfl (stays path)
  | _ => exact acts.1

theorem acts_beside {who : Option String} (acts : Acts kept w r w') (works : WorksOn who r)
    (keeps : kept path) (apart : ∀ own ∈ who, ∀ fs : FileTree, fs.standing path ≠ fs.standing own) :
    Beside path w.files w'.files := by
  cases r with
  | createFile own | appendFile own | writeFile own => exact acts.2.beside (apart own works w.files)
  | makeDirectories => exact acts.2 path
  | save => exact acts.2 path keeps
  | dispose => exact works.elim
  | _ =>
    rw [acts.2]
    exact .refl path w.files

/-- Work on a file itself keeps it readable, so that it can be removed. -/
theorem acts_tended (acts : Acts kept w r w') (works : WorksOn (some path) r) (keeps : kept path)
    (tended : Tended path w.files) : Tended path w'.files ∧ w'.files.home = w.files.home := by
  cases r with
  | createFile own | appendFile own | writeFile own =>
    obtain rfl := Option.some.inj works
    exact ⟨tended.spares acts.2, acts.2.home⟩
  | makeDirectories => exact ⟨tended.beside (acts.2 path), (acts.2 path).home⟩
  | save => exact ⟨tended.beside (acts.2 path keeps), (acts.2 path keeps).home⟩
  | dispose => exact works.elim
  | _ =>
    rw [acts.2]
    exact ⟨tended, rfl⟩

theorem not_dispose {who : Option String} (works : WorksOn who r) (path : String) :
    r ≠ .dispose path := by
  rintro rfl
  exact works

theorem serves_beside {who : Option String} (served : serves kept w r reply w')
    (works : WorksOn who r) (keeps : kept path)
    (apart : ∀ own ∈ who, ∀ fs : FileTree, fs.standing path ≠ fs.standing own)
    (sheltered : w.Sheltered path) : w'.Sheltered path ∧ Beside path w.files w'.files := by
  obtain ⟨m, meanwhile, acts⟩ := served
  obtain ⟨sheltered, before⟩ := meanwhile.beside keeps sheltered
  have after := acts_beside acts works keeps apart
  exact ⟨sheltered.congr (acts_times acts (not_dispose works)).alarms after.home, before.trans after⟩

variable {front : List Exchange} {who : Option String}

theorem follows_beside (follows : Answering.Follows (serves kept) w front w')
    (works : ∀ x ∈ front, WorksOn who x.1) (keeps : kept path)
    (apart : ∀ own ∈ who, ∀ fs : FileTree, fs.standing path ≠ fs.standing own)
    (sheltered : w.Sheltered path) : w'.Sheltered path ∧ Beside path w.files w'.files := by
  refine follows.keeps (P := fun x => WorksOn who x.1)
    (I := fun m => m.Sheltered path ∧ Beside path w.files m.files) works ?_
      ⟨sheltered, .refl path w.files⟩
  intro m r reply m' works served ⟨sheltered, beside⟩
  obtain ⟨sheltered, after⟩ := serves_beside served works keeps apart sheltered
  exact ⟨sheltered, beside.trans after⟩

/-- What is to be known of a file that is being worked on, so that it can be given up. -/
structure Disposable (path : String) (retention : Option Nat) (w : World) : Prop where
  sorted : w.alarms.Pairwise (·.1 ≤ ·.1)
  retention : w.retention = retention
  sheltered : w.Sheltered path
  tended : Tended path w.files

theorem Disposable.meanwhile {retention : Option Nat} (h : Disposable path retention w)
    (meanwhile : Meanwhile kept w w') (keeps : kept path) : Disposable path retention w' := by
  obtain ⟨sheltered, beside⟩ := meanwhile.beside keeps h.sheltered
  exact ⟨meanwhile.sorted h.sorted, meanwhile.retention.trans h.retention, sheltered,
    h.tended.beside beside⟩

theorem Disposable.follows {retention : Option Nat} (h : Disposable path retention w)
    (follows : Answering.Follows (serves kept) w front w')
    (works : ∀ x ∈ front, WorksOn (some path) x.1) (keeps : kept path) :
    Disposable path retention w' := by
  refine follows.keeps (P := fun x => WorksOn (some path) x.1) works ?_ h
  rintro w r reply w' works ⟨m, meanwhile, acts⟩ h
  have h := h.meanwhile meanwhile keeps
  have times := acts_times acts (not_dispose works)
  obtain ⟨tended, home⟩ := acts_tended acts works keeps h.tended
  exact ⟨times.alarms ▸ h.sorted, times.retention.trans h.retention,
    h.sheltered.congr times.alarms home, tended⟩

theorem cacheFile_apart {name : String} (named : IsName name)
    (other : name ≠ cacheName task.id (prepared task).fileName) (fs : FileTree) :
    fs.standing (Path.below engine.cacheDir name) ≠ fs.standing (cacheFile engine task) :=
  fun same => other (fs.standing_below_injective engine.cacheDir named (cacheName_isName ..) same)

theorem Disposable.gone (h : Disposable path none w) (served : serves kept w (.dispose path) () w')
    (keeps : kept path) : w'.Sheltered path ∧ w'.files.fileAt path = none := by
  obtain ⟨m, meanwhile, acts⟩ := served
  have h := h.meanwhile meanwhile keeps
  have done := acts.trans (Sandbox.world_dispose m path)
  rw [h.retention] at done
  rw [done]
  exact ⟨h.sheltered.congr rfl (Disk.spares_discard m.files path).home, Disk.fileAt_discard h.tended⟩

theorem Disposable.lasts {ms : Nat} (h : Disposable path (some ms) w)
    (served : serves kept w (.dispose path) () w') (keeps : kept path) :
    Lasts kept path ms (w.files.fileAt path) w' := by
  obtain ⟨m, meanwhile, acts⟩ := served
  have same := (meanwhile.beside keeps h.sheltered).2.file
  have h := h.meanwhile meanwhile keeps
  have done := acts.trans (Sandbox.world_dispose m path)
  rw [h.retention] at done
  rw [done, ← same]
  apply Doomed.lasts ?_ keeps
  refine ⟨World.setAlarm_sorted h.sorted .., fun e he => ?_,
    Or.inl ⟨Nat.le_add_right .., World.mem_setAlarm.mpr (Or.inl rfl), h.tended, rfl⟩⟩
  rcases World.mem_setAlarm.mp he with rfl | he
  · exact Or.inl rfl
  · exact Or.inr (h.sheltered e he)

theorem serves_dispose_beside {own : String} (served : serves kept w (.dispose own) () w')
    (keeps : kept path) (apart : ∀ fs : FileTree, fs.standing path ≠ fs.standing own)
    (sheltered : w.Sheltered path) : w'.Sheltered path ∧ Beside path w.files w'.files := by
  obtain ⟨m, meanwhile, acts⟩ := served
  obtain ⟨sheltered, before⟩ := meanwhile.beside keeps sheltered
  have done := acts.trans (Sandbox.world_dispose m own)
  cases kind : m.retention with
  | none =>
    rw [kind] at done
    rw [done]
    have after : Beside path m.files (m.discard own).files :=
      (Disk.spares_discard m.files own).beside (apart m.files)
    exact ⟨sheltered.congr rfl after.home, before.trans after⟩
  | some ms =>
    rw [kind] at done
    rw [done]
    refine ⟨fun e he => ?_, before⟩
    rcases World.mem_setAlarm.mp he with rfl | he
    · exact apart m.files
    · exact sheltered e he

end Serves

/-- A message whose file is of unknown size, and its route. -/
def note : Task :=
  .new 1 (.message ⟨"doc", 0, "notes.txt"⟩ 7 8) "shelf" 5 ""

def noteRoute : Route :=
  ⟨⟨"shelf", .minio, .backend 0, id⟩, "notes.txt"⟩

def desk : World where
  files := ⟨[(["cache"], .directory)], []⟩
  retention := some 5

theorem desk_target :
    desk.files.target "cache/1_notes.txt" = .ok ⟨["cache", "1_notes.txt"], false, true⟩ := by
  have path_size : "cache/1_notes.txt".utf8ByteSize = 17 := by decide
  have dir_size : "cache".utf8ByteSize = 5 := by decide
  have name_size : "1_notes.txt".utf8ByteSize = 11 := by decide
  simp [FileTree.target, FileTree.follow, Path.split, desk, path_size, dir_size, name_size,
    FileTree.isDirectory, FileTree.find?, FileTree.longestPath, FileTree.longestName]

end Courier.Transfer
