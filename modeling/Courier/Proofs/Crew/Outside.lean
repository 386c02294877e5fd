import Courier.Proofs.FileTree.Sight
import Courier.Proofs.Transfer.Tidy
import Courier.Scheduler.State

/-! What answers transfers when nothing but the call decides: fixed rules and texts, a source, and storages
that keep what they are given in memory. The file system and the storages are shared by all. -/
namespace Courier

/-- The newest content that a storage has under a path. -/
def Depot.content (d : Depot) (number : Nat) (path : String) : Option Bytes :=
  (d.written.reverse.find? fun (n, p, _) => n == number && p == path).map (·.2.2)

/-- Writes a whole file. -/
def Depot.overwrite (d : Depot) (path : String) (content : Bytes) : Except OsError Unit × Depot :=
  match d.files.write path content with
  | .ok files => (.ok (), { d with files })
  | .error e => (.error e, d)

/-- Removes a file if it is there. -/
def Depot.discard (d : Depot) (path : String) : Depot :=
  { d with files := (d.files.remove path).toOption.getD d.files }

/-- What transfers meet outside, where every answer depends on the call alone. -/
structure Outside where
  rules : (user : Int) → Except CallError UserRules
  text : (chat post : Int) → Except CallError (Option String)
  chunk : (location : String) → (offset limit : Nat) → Except CallError Bytes
  head : (location : String) → (limit : Nat) → Except CallError Bytes
  /-- Why a storage refuses a file under a path, if it does. -/
  refusal : (number : Nat) → (localPath path : String) → Option CallError
  /-- Whether files that have been given up are kept for a while. -/
  retains : Bool

namespace Outside

/-- The answer to a question, and the depot after it. Nobody cancels anything. -/
def serve (o : Outside) (d : Depot) : (r : Request) → r.Reply × Depot
  | .canceled => (false, d)
  | .userRules user => (o.rules user, d)
  | .messageText chat post => (o.text chat post, d)
  | .makeDirectories path => ((d.files.pave path).1, { d with files := (d.files.pave path).2 })
  | .createFile path => d.overwrite path ByteArray.empty
  | .appendFile path more => (.ok (), { d with files := d.files.append path more })
  | .writeFile path content => d.overwrite path content
  | .readHead path most => ((d.files.read path).map (·.extract 0 most), d)
  | .fetchChunk location offset limit => (some (o.chunk location offset limit), d)
  | .fetchWhole location limit => (some (o.head location limit), d)
  | .save (.backend number) localPath path =>
    match o.refusal number localPath path, d.files.read localPath with
    | some e, _ => (.error e, d)
    | none, .error e => (.error (.os e), d)
    | none, .ok content => (.ok (), { d with written := d.written ++ [(number, path, content)] })
  | .dispose path => ((), if o.retains then d else d.discard path)
  | .progress .. => ((), d)
  | .save .disk localPath path => (Request.someReply (.save .disk localPath path), d)
  | .page slug => (Request.someReply (.page slug), d)
  | .image link => (Request.someReply (.image link), d)

def answers (o : Outside) : Answering Depot :=
  fun d r reply d' => o.serve d r = (reply, d')

end Outside

/-- A job that is done alone, from beginning to end. -/
def Job.perform {α : Type} (o : Outside) : Job α → Depot → α × Depot
  | .done a, d => (a, d)
  | .ask r next, d => (next (o.serve d r).1).perform o (o.serve d r).2

theorem Job.perform_trace {α : Type} (o : Outside) (job : Job α) (d : Depot) :
    ∃ t, job.Trace t (job.perform o d).1 ∧ o.answers.Follows d t (job.perform o d).2 := by
  induction job generalizing d with
  | done a => exact ⟨[], .done a, rfl⟩
  | ask r next ih =>
    obtain ⟨t, run, follows⟩ := ih (o.serve d r).1 (o.serve d r).2
    exact ⟨⟨r, (o.serve d r).1⟩ :: t, .ask _ run, (o.serve d r).2, rfl, follows⟩

theorem Job.perform_ask {α : Type} {o : Outside} {r : Request} {next : r.Reply → Job α} {reply : r.Reply}
    {d d' : Depot} {result : α × Depot} (served : o.serve d r = (reply, d'))
    (rest : (next reply).perform o d' = result) : (ask r next).perform o d = result := by
  rw [perform, served]
  exact rest

def Scheduler.Report.of : Task × Stage → Scheduler.Report
  | (left, .ended result) =>
    let task := Scheduler.State.ended left result
    ⟨task.summary, task.status, task.error⟩
  | (left, .images ..) => ⟨left.summary, left.status, left.error⟩

/-- Transfers tasks one after another. -/
def Transfer.inTurn (engine : Engine) (o : Outside) : List Task → Depot → List Scheduler.Report × Depot
  | [], d => ([], d)
  | task :: rest, d =>
    let (ran, d) := (run engine task).perform o d
    let (reports, d) := inTurn engine o rest d
    (.of ran :: reports, d)

/-! ### What a question does -/

namespace Outside

open FileTree (Amends)
open Transfer (Handles SavesAt)

variable {o : Outside} {d v : Depot} {r : Request} {path : String}

theorem amends_overwrite (d : Depot) (path : String) (content : Bytes) :
    Amends path d.files (d.overwrite path content).2.files := by
  unfold Depot.overwrite
  split
  · next files written => exact FileTree.amends_write written
  · exact .refl path d.files

theorem amends_discard (d : Depot) (path : String) : Amends path d.files (d.discard path).files := by
  unfold Depot.discard
  cases removed : d.files.remove path with
  | error e => exact .refl path d.files
  | ok files => exact FileTree.amends_remove removed

theorem overwrite_congr (same : d.files.sight path = v.files.sight path) (content : Bytes) :
    (d.overwrite path content).1 = (v.overwrite path content).1 ∧
      (d.overwrite path content).2.files.sight path = (v.overwrite path content).2.files.sight path := by
  unfold Depot.overwrite
  obtain ⟨e, here, there⟩ | ⟨made, made', here, there, shown⟩ := FileTree.write_congr same content
  · rw [here, there]
    exact ⟨rfl, same⟩
  · rw [here, there]
    exact ⟨rfl, shown⟩

theorem overwrite_written (d : Depot) (path : String) (content : Bytes) :
    (d.overwrite path content).2.written = d.written := by
  unfold Depot.overwrite
  split <;> rfl

theorem amends_dispose (o : Outside) (d : Depot) (path : String) :
    Amends path d.files (o.serve d (.dispose path)).2.files := by
  simp only [serve]
  split
  · exact .refl path d.files
  · exact amends_discard d path

theorem serve_quiet (quiet : Handles none r) :
    (o.serve d r).2 = d ∧ (o.serve d r).1 = (o.serve v r).1 := by
  cases r with
  | canceled | userRules | messageText | fetchChunk | fetchWhole | progress => exact ⟨rfl, rfl⟩
  | createFile | appendFile | writeFile | readHead => contradiction
  | save => exact absurd quiet.1 (by simp)
  | makeDirectories | dispose | page | image => exact quiet.elim

theorem serve_amends (handles : Handles (some path) r) :
    Amends path d.files (o.serve d r).2.files := by
  cases r with
  | createFile | writeFile =>
    obtain rfl := Option.some.inj handles
    exact amends_overwrite ..
  | appendFile =>
    obtain rfl := Option.some.inj handles
    exact FileTree.amends_append ..
  | save medium localPath remotePath =>
    obtain ⟨-, number, rfl⟩ := handles
    simp only [serve]
    split <;> exact .refl path d.files
  | makeDirectories | dispose | page | image => exact handles.elim
  | _ => exact .refl path d.files

/-- Where the own file looks the same, it is answered the same, and looks the same then; and the storages
are given the same. -/
theorem serve_congr (handles : Handles (some path) r) (same : d.files.sight path = v.files.sight path) :
    (o.serve d r).1 = (o.serve v r).1 ∧
      (o.serve d r).2.files.sight path = (o.serve v r).2.files.sight path ∧
      ∃ more, (o.serve d r).2.written = d.written ++ more ∧
        (o.serve v r).2.written = v.written ++ more := by
  have nothing : ∃ more, d.written = d.written ++ more ∧ v.written = v.written ++ more :=
    ⟨[], (List.append_nil _).symm, (List.append_nil _).symm⟩
  cases r with
  | createFile | writeFile =>
    obtain rfl := Option.some.inj handles
    obtain ⟨reply, shown⟩ := overwrite_congr same _
    refine ⟨reply, shown, ?_⟩
    simpa only [serve, overwrite_written] using nothing
  | appendFile own more =>
    obtain rfl := Option.some.inj handles
    exact ⟨rfl, FileTree.append_congr same more, nothing⟩
  | readHead own most =>
    obtain rfl := Option.some.inj handles
    exact ⟨by simp only [serve, FileTree.read_congr same], same, nothing⟩
  | save medium localPath remotePath =>
    obtain ⟨own, number, rfl⟩ := handles
    obtain rfl := Option.some.inj own
    have read := FileTree.read_congr same
    cases refused : o.refusal number path remotePath with
    | some e =>
      simp only [serve, refused, true_and]
      exact ⟨same, nothing⟩
    | none =>
      cases content : v.files.read path with
      | error e =>
        simp only [serve, refused, read, content, true_and]
        exact ⟨same, nothing⟩
      | ok bytes =>
        simp only [serve, refused, read, content, true_and]
        exact ⟨same, _, rfl, rfl⟩
  | canceled | userRules | messageText | fetchChunk | fetchWhole | progress => exact ⟨rfl, same, nothing⟩
  | makeDirectories | dispose | page | image => exact handles.elim

theorem content_append (d : Depot) (entry : Nat × String × Bytes) (number : Nat) (path : String) :
    ({ d with written := d.written ++ [entry] } : Depot).content number path =
      if entry.1 = number ∧ entry.2.1 = path then some entry.2.2 else d.content number path := by
  simp only [Depot.content, List.reverse_append, List.reverse_singleton, List.singleton_append,
    List.find?_cons]
  by_cases here : entry.1 = number ∧ entry.2.1 = path
  · simp [here]
  · have other : (entry.1 == number && entry.2.1 == path) = false := by simpa using here
    rw [if_neg here, other]

theorem content_congr {d' v' : Depot} {more : List (Nat × String × Bytes)} {number : Nat}
    (same : d.content number path = v.content number path) (hd : d'.written = d.written ++ more)
    (hv : v'.written = v.written ++ more) : d'.content number path = v'.content number path := by
  simp only [Depot.content, hd, hv, List.reverse_append, List.find?_append] at same ⊢
  cases more.reverse.find? fun (n, p, _) => n == number && p == path with
  | none => exact same
  | some entry => rfl

/-- Nothing but a save under a path changes what a storage has there. -/
theorem serve_content {number : Nat}
    (other : ¬ SavesAt [⟨r, (o.serve d r).1⟩] (.backend number) path) :
    (o.serve d r).2.content number path = d.content number path := by
  have unwritten {d' : Depot} (same : d'.written = d.written) :
      d'.content number path = d.content number path := by rw [Depot.content, same, Depot.content]
  cases r with
  | save medium localPath remotePath =>
    cases medium with
    | disk => rfl
    | backend n =>
      cases refused : o.refusal n localPath remotePath with
      | some e => simp only [serve, refused]
      | none =>
        cases content : d.files.read localPath with
        | error e => simp only [serve, refused, content]
        | ok bytes =>
          simp only [serve, refused, content] at other ⊢
          rw [content_append, if_neg]
          rintro ⟨rfl, rfl⟩
          exact other ⟨localPath, List.mem_singleton.mpr rfl⟩
  | createFile | writeFile => exact unwritten (overwrite_written ..)
  | dispose given =>
    refine unwritten ?_
    simp only [serve]
    split <;> rfl
  | _ => rfl

theorem content_dispose (o : Outside) (d : Depot) (given : String) (number : Nat) (path : String) :
    (o.serve d (.dispose given)).2.content number path = d.content number path := by
  refine serve_content ?_
  rintro ⟨localPath, mem⟩
  simp at mem

end Outside

end Courier
