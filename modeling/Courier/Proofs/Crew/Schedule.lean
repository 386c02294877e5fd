import Courier.Proofs.Crew.Run

/-! What becomes of tasks does not depend on the schedule. When all have been notified, the notifications
and the content of the storages are those of one transfer after another. -/
namespace Courier.Crew

open Scheduler (History Report State)
open Transfer (cacheFile noLibraries)

variable {engine : Engine} {o : Outside} {slots : Nat} {start : Depot} {past : History} {c : Crew}

theorem Sound.reported (sound : Sound engine o start past c) (run : Run engine o slots start past c)
    (independent : Independent engine o start past.submitted) {report : Report}
    (here : report ∈ c.scheduler.reports) : ∃ held left result,
      Ended engine o start past c.depot held left result ∧
        report = .of (alone engine o start held).1 ∧ report.summary.id = held.id := by
  have terminal := run.scheduler.accounted.settled.reported report here
  obtain ⟨told, fate, rfl⟩ := run.scheduler.fated.reports report here
  cases fate with
  | @waits sub canceled submitted =>
    rw [show (Scheduler.marked sub canceled).status = .pending from
      (independent.pending sub submitted).1] at terminal
    contradiction
  | withdrawn canceled submitted gone =>
    rw [run.withdrawn] at gone
    contradiction
  | @ended s index left held result sub canceled happened had same =>
    have ended := sound.ended s index left result held happened had
    have unasked := (independent.pending held ended.submitted).2
    have mark : Scheduler.marked left (held.canceled || left.canceled) = left := by
      rw [unasked, Bool.false_or]
      rfl
    have outcome : Report.of (alone engine o start held).1 = Report.of (left, .ended result) := by
      rw [ended.same]
    rw [mark]
    exact ⟨held, left, result, ended, outcome.symm, (Scheduler.ended_id left result).trans same.symm⟩

theorem Sound.all_ended (sound : Sound engine o start past c) (run : Run engine o slots start past c)
    (independent : Independent engine o start past.submitted)
    (drained : c.scheduler.isDrained = true) {task : Task} (submitted : task ∈ past.submitted) :
    (∃ left result, Ended engine o start past c.depot task left result) ∧
      Report.of (alone engine o start task).1 ∈ c.scheduler.reports ∧
      (Report.of (alone engine o start task).1).summary.id = task.id := by
  have notified : task.id ∈ c.scheduler.notified := by
    have outstanding := run.scheduler.accounted.outstanding_eq independent.ids
    rw [beq_iff_eq.mp drained, eq_comm, List.length_eq_zero_iff, List.filter_eq_nil_iff] at outstanding
    simpa using outstanding task submitted
  obtain ⟨report, here, same⟩ := List.mem_map.mp notified
  obtain ⟨held, left, result, ended, rfl, own⟩ := sound.reported run independent here
  obtain rfl := independent.eq_of_id ended.submitted submitted (own.symm.trans same)
  exact ⟨⟨left, result, ended⟩, here, own⟩

theorem Sound.reports_perm (sound : Sound engine o start past c) (run : Run engine o slots start past c)
    (independent : Independent engine o start past.submitted)
    (drained : c.scheduler.isDrained = true) :
    c.scheduler.reports.Perm
      (past.submitted.map fun task => Report.of (alone engine o start task).1) := by
  have named : ∀ task ∈ past.submitted,
      (Report.of (alone engine o start task).1).summary.id = task.id := fun task submitted =>
    (sound.all_ended run independent drained submitted).2.2
  -- No task has two reports, so that it is enough that there are the same ones on both sides.
  have once : c.scheduler.reports.Nodup :=
    .of_map _ (run.scheduler.accounted.notified_nodup independent.ids)
  have apart : (past.submitted.map fun task => Report.of (alone engine o start task).1).Nodup := by
    refine .of_map (·.summary.id) ?_
    rw [List.map_map, List.map_congr_left (g := (·.id)) named]
    exact independent.ids
  rw [List.perm_ext_iff_of_nodup once apart]
  intro report
  constructor
  · intro here
    obtain ⟨held, _, _, ended, rfl, -⟩ := sound.reported run independent here
    exact List.mem_map_of_mem ended.submitted
  · intro here
    obtain ⟨task, submitted, rfl⟩ := List.mem_map.mp here
    exact (sound.all_ended run independent drained submitted).2.1

/-- However the workers take turns, once all tasks are notified they have been notified of the same, and
every storage has the same content, as when they are transferred one after another in the order of their
submission. -/
theorem results_are_those_in_turn (run : Run engine o slots start past c)
    (independent : Independent engine o start past.submitted)
    (drained : c.scheduler.isDrained = true) :
    c.scheduler.reports.Perm (Transfer.inTurn engine o past.submitted start).1 ∧
      ∀ number path, c.depot.content number path =
        (Transfer.inTurn engine o past.submitted start).2.content number path := by
  have sound := run.sound independent
  have untouched : Untouched engine o start past.submitted start :=
    ⟨independent.steady, fun _ _ => .refl _ _ _, fun _ _ _ _ _ => rfl⟩
  obtain ⟨reports, wrote, kept⟩ := inTurn_alone independent untouched
  constructor
  · rw [reports]
    exact sound.reports_perm run independent drained
  · intro number path
    -- Either one task saves there, and then no other one does, or what was there stays.
    by_cases saves : ∃ task ∈ past.submitted, Writes engine o start task number path
    · obtain ⟨task, submitted, writes⟩ := saves
      obtain ⟨⟨left, result, ended⟩, -⟩ := sound.all_ended run independent drained submitted
      rw [wrote task submitted number path writes]
      exact ended.content number path writes
    · have silent : ∀ task ∈ past.submitted, ¬ Writes engine o start task number path :=
        fun task submitted writes => saves ⟨task, submitted, writes⟩
      rw [kept number path silent]
      exact sound.spared.content number path fun task submitted _ => silent task submitted

def letter : Task :=
  .new 1 (.message ⟨"letter", 0, "a.txt"⟩ 7 8) "shelf" 5 ""

def picture : Task :=
  .new 2 (.message ⟨"picture", 0, "b.txt"⟩ 7 9) "shelf" 5 ""

def office : Engine :=
  ⟨⟨[], [⟨"shelf", .minio, .backend 0, id⟩], []⟩, .none, "", none, noLibraries⟩

def mail : Outside where
  rules _ := .error .canceled
  text _ _ := .ok none
  chunk _ _ _ := .error (.network "no chunks")
  head location _ := if location = "letter" then .ok ⟨#[1]⟩ else .error (.network "no picture")
  refusal _ _ _ := none
  retains := true

def bare : Depot :=
  ⟨.empty [], []⟩

def filled : FileTree :=
  ⟨[(["1_a.txt"], .file ⟨#[1]⟩)], []⟩

theorem served_directory (d : Depot) : mail.serve d (.makeDirectories office.cacheDir) = (.ok (), d) := by
  have paved : d.files.pave office.cacheDir = (.ok (), d.files) :=
    FileTree.paved_iff.mpr (Or.inl rfl)
  rw [Outside.serve, paved]

theorem target_letter :
    bare.files.target (cacheFile office letter) = .ok ⟨["1_a.txt"], false, true⟩ := by
  have own : cacheFile office letter = "1_a.txt" := by decide +kernel
  have size : "1_a.txt".utf8ByteSize = 7 := by decide
  rw [own]
  simp [FileTree.target, FileTree.follow, Path.split, bare, FileTree.empty, size,
    FileTree.isDirectory, FileTree.find?, FileTree.longestPath, FileTree.longestName]

theorem served_write : mail.serve bare (.writeFile (cacheFile office letter) ⟨#[1]⟩) =
    (.ok (), ⟨filled, []⟩) := by
  have written : bare.files.write (cacheFile office letter) ⟨#[1]⟩ = .ok filled := by
    rw [FileTree.write, FileTree.writable, target_letter]
    rfl
  rw [Outside.serve, Depot.overwrite, written]
  rfl

theorem served_save :
    mail.serve ⟨filled, []⟩ (.save (.backend 0) (cacheFile office letter) "a.txt") =
      (.ok (), ⟨filled, [(0, "a.txt", ⟨#[1]⟩)]⟩) := by
  have leads : bare.files.LeadsTo (cacheFile office letter) ["1_a.txt"] :=
    FileTree.leadsTo_of_target target_letter rfl (by simp [bare, FileTree.empty, FileTree.find?])
  have read : filled.read (cacheFile office letter) = .ok ⟨#[1]⟩ :=
    FileTree.read_eq_ok.mpr ⟨_, leads.lookup_put _⟩
  simp only [Outside.serve, read]
  rfl

theorem independent_mail : Independent office mail bare [letter, picture] where
  ids := by decide
  pending task here := by
    obtain rfl | rfl : task = letter ∨ task = picture := by simpa using here
    · exact ⟨rfl, rfl⟩
    · exact ⟨rfl, rfl⟩
  messages task here := by
    obtain rfl | rfl : task = letter ∨ task = picture := by simpa using here
    · exact ⟨_, _, _, rfl⟩
    · exact ⟨_, _, _, rfl⟩
  destinations := by
    have failed : alone office mail bare picture =
        (({ picture with path := "b.txt", started := true },
          .ended (.error (.fetch (.network "no picture")))), bare) :=
      Job.perform_ask rfl <| Job.perform_ask rfl <| Job.perform_ask (served_directory bare) <|
        Job.perform_ask rfl <| Job.perform_ask rfl <| Job.perform_ask rfl rfl
    have nowhere : destination office mail bare picture = none := by rw [destination, failed]
    simp [nowhere]
  shelves storage here := by
    obtain rfl := List.mem_singleton.mp here
    exact ⟨0, rfl⟩
  own storage here other there _ := by
    rw [List.mem_singleton.mp here, List.mem_singleton.mp there]
  directory e failed := by
    have made := congrArg Prod.fst (served_directory bare)
    rw [show (bare.files.pave office.cacheDir).1 = .ok () from made] at failed
    contradiction

/-- The letter and the picture are fetched at the same time, and the picture is the first to come to its
end. -/
theorem results_are_those_in_turn_of_mail : ∃ past c, Run office mail 2 bare past c ∧
    past.submitted = [letter, picture] ∧ c.scheduler.isDrained = true ∧
    [⟨{ picture with path := "b.txt" }.summary, .failed,
        some "Fetch failed: Network error: no picture"⟩,
      ⟨{ letter with path := "a.txt" }.summary, .succeeded, none⟩].Perm
        (Transfer.inTurn office mail [letter, picture] bare).1 ∧
    (Transfer.inTurn office mail [letter, picture] bare).2.content 0 "a.txt" = some ⟨#[1]⟩ := by
  have run := (Run.init : Run office mail 2 bare [] (.new 2 bare))
    |>.event (.submit letter) rfl rfl
    |>.event (.submit picture) rfl rfl
    |>.event .start rfl rfl
    |>.event (.acquire 0) rfl rfl
    |>.event (.acquire 1) rfl rfl
    |>.take 0 rfl
    |>.take 1 rfl
    |>.ask 0 rfl rfl
    |>.ask 1 rfl rfl
    |>.ask 0 rfl rfl
    |>.ask 1 rfl rfl
    |>.ask 1 rfl (served_directory bare)
    |>.ask 0 rfl (served_directory bare)
    |>.ask 1 rfl rfl
    |>.ask 0 rfl rfl
    |>.ask 0 rfl rfl
    |>.ask 0 rfl served_write
    |>.ask 1 rfl rfl
    |>.ask 1 rfl rfl
    |>.finish 1 rfl rfl
    |>.ask 0 rfl rfl
    |>.ask 0 rfl rfl
    |>.event (.putBack 1) rfl rfl
    |>.event (.release 1) rfl rfl
    |>.event (.acquire 1) rfl rfl
    |>.take 1 rfl
    |>.event (.notify 1) rfl rfl
    |>.ask 0 rfl served_save
    |>.ask 0 rfl rfl
    |>.expire (cacheFile office letter) (List.mem_append_right _ (List.mem_singleton.mpr rfl))
    |>.finish 0 rfl rfl
    |>.event (.putBack 0) rfl rfl
    |>.event (.release 0) rfl rfl
    |>.event (.acquire 0) rfl rfl
    |>.take 0 rfl
    |>.event (.notify 0) rfl rfl
  have text : (TransferError.fetch (.network "no picture")).message =
      "Fetch failed: Network error: no picture" := by decide +kernel
  obtain ⟨reports, content⟩ := results_are_those_in_turn run independent_mail rfl
  refine ⟨_, _, run, rfl, rfl, ?_, (content 0 "a.txt").symm⟩
  rw [← text]
  exact reports

end Courier.Crew
