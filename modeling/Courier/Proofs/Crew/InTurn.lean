import Courier.Proofs.Crew.Shadow
import Mathlib.Data.List.Nodup
import Mathlib.Data.List.Pairwise

/-! Tasks that do not meet: each has an id and a destination of its own. When they are transferred one after
another, each ends as it would alone. -/
namespace Courier.Crew

open FileTree (Alike Steady)
open Transfer (cacheFile)

section Independent

variable (engine : Engine) (o : Outside) (start : Depot)

/-- Where a transfer that is alone saves its file, by the storage and the path that the task has then. -/
def destination (task : Task) : Option (String × String) :=
  match (alone engine o start task).1 with
  | (left, .ended (.ok ())) => some (left.storage, left.path)
  | _ => none

/-- Tasks that do not meet: pending messages that nobody cancels, with ids and destinations of their own. -/
structure Independent (tasks : List Task) : Prop where
  ids : (tasks.map (·.id)).Nodup
  pending : ∀ task ∈ tasks, task.status = .pending ∧ task.canceled = false
  messages : ∀ task ∈ tasks, ∃ file chat post, task.origin = .message file chat post
  destinations : tasks.Pairwise fun task other => ∀ place ∈ destination engine o start task,
    place ∉ destination engine o start other
  /-- Every storage is one of the embedder, and no two of them keep the same files. -/
  shelves : ∀ storage ∈ engine.registry.storages, ∃ number, storage.medium = .backend number
  own : ∀ storage ∈ engine.registry.storages, ∀ other ∈ engine.registry.storages,
    storage.medium = other.medium → storage.name = other.name
  /-- A cache directory that cannot be made cannot be made the next time either, for the same cause.
  Nothing is asked of one that can be made. -/
  directory : ∀ e, (start.files.pave engine.cacheDir).1 = .error e →
    (start.files.pave engine.cacheDir).2.pave engine.cacheDir = start.files.pave engine.cacheDir

end Independent

variable {engine : Engine} {o : Outside} {start d : Depot} {task : Task}

namespace Independent

variable {tasks some_tasks : List Task} {other : Task}

theorem of_sublist (independent : Independent engine o start tasks) (sub : some_tasks.Sublist tasks) :
    Independent engine o start some_tasks where
  ids := (sub.map _).nodup independent.ids
  pending _ here := independent.pending _ (sub.subset here)
  messages _ here := independent.messages _ (sub.subset here)
  destinations := independent.destinations.sublist sub
  shelves := independent.shelves
  own := independent.own
  directory := independent.directory

variable (independent : Independent engine o start tasks)
include independent

theorem steady : Steady engine.cacheDir start.files :=
  FileTree.steady_of_error independent.directory

theorem eq_of_id (here : task ∈ tasks) (there : other ∈ tasks) (same : task.id = other.id) :
    task = other :=
  List.inj_on_of_nodup_map independent.ids here there same

theorem apart_of_ne (here : task ∈ tasks) (there : other ∈ tasks) (ne : task ≠ other) :
    ownName task ≠ ownName other :=
  fun same => ne (independent.eq_of_id here there (id_of_cacheName same))

theorem storage_eq {name otherName : String} {storage found : Storage}
    (hs : engine.registry.find? name = some storage) (ho : engine.registry.find? otherName = some found)
    (medium : storage.medium = found.medium) : name = otherName := by
  have named : storage.name = name := by simpa using List.find?_some hs
  have named' : found.name = otherName := by simpa using List.find?_some ho
  rw [← named, ← named']
  exact independent.own storage (List.mem_of_find?_eq_some hs) found (List.mem_of_find?_eq_some ho) medium

theorem writes_apart (here : task ∈ tasks) (there : other ∈ tasks) (ne : task ≠ other) {number : Nat}
    {path : String} (writes : Writes engine o start task number path) :
    ¬ Writes engine o start other number path := by
  rintro ⟨right, found, ended', rfl, hf, medium'⟩
  obtain ⟨left, storage, ended, path_eq, hs, medium⟩ := writes
  have same := independent.storage_eq hs hf (medium.trans medium'.symm)
  have symm : Std.Symm fun task other => ∀ place ∈ destination engine o start task,
      place ∉ destination engine o start other :=
    ⟨fun task other apart place here there => apart place there here⟩
  have apart := independent.destinations.forall here there ne
  refine apart (left.storage, left.path) ?_ ?_
  · simp [destination, ended]
  · simp [destination, ended', same, path_eq]

/-- A transfer goes on as it did after what that of another task has done. -/
theorem shadow_beside (here : task ∈ tasks) (there : other ∈ tasks) (ne : task ≠ other) {d' v : Depot}
    {job : Job (Task × Stage)} {t : List Exchange} {made : Bool}
    (shadow : Shadow engine o start task job d v t made) (elsewhere : Elsewhere engine o start other d d') :
    Shadow engine o start task job d' v t made :=
  shadow.beside elsewhere (fun _ => independent.apart_of_ne here there ne) fun number path writes =>
    elsewhere.content number path (independent.writes_apart here there ne writes)

end Independent

theorem ownName_of_cacheFile {other : Task} (same : cacheFile engine task = cacheFile engine other) :
    ownName task = ownName other :=
  Path.IsName.below_injective engine.cacheDir (cacheName_isName ..) (cacheName_isName ..) same

/-! ### One after another -/

/-- A depot in which some tasks find what they would find at the start. -/
structure Untouched (engine : Engine) (o : Outside) (start : Depot) (tasks : List Task) (d : Depot) :
    Prop where
  steady : Steady engine.cacheDir d.files
  alike : ∀ task ∈ tasks, Alike engine.cacheDir (cacheFile engine task) d.files start.files
  content : ∀ task ∈ tasks, ∀ number path, Writes engine o start task number path →
    d.content number path = start.content number path

/-- Tasks that are transferred one after another end as they would alone, and the storages have what each
of them has saved. -/
theorem inTurn_alone {tasks : List Task} (independent : Independent engine o start tasks)
    (untouched : Untouched engine o start tasks d) :
    (Transfer.inTurn engine o tasks d).1 =
        tasks.map (fun task => .of (alone engine o start task).1) ∧
      (∀ task ∈ tasks, ∀ number path, Writes engine o start task number path →
        (Transfer.inTurn engine o tasks d).2.content number path =
          (alone engine o start task).2.content number path) ∧
      ∀ number path, (∀ task ∈ tasks, ¬ Writes engine o start task number path) →
        (Transfer.inTurn engine o tasks d).2.content number path = d.content number path := by
  induction tasks generalizing d with
  | nil => exact ⟨rfl, by simp, fun _ _ _ => rfl⟩
  | cons task rest ih =>
    have here : task ∈ task :: rest := List.mem_cons_self
    obtain ⟨file, chat, post, message⟩ := independent.messages task here
    obtain ⟨t, shadow⟩ := Shadow.begin (o := o) message independent.shelves (untouched.alike task here)
      (untouched.content task here)
    obtain ⟨same, saved, elsewhere⟩ := shadow.perform untouched.steady
    have others : ∀ other ∈ rest, other ≠ task := by
      rintro other there rfl
      have ids := independent.ids
      rw [List.map_cons, List.nodup_cons] at ids
      exact ids.1 (List.mem_map_of_mem there)
    have later : Untouched engine o start rest ((Transfer.run engine task).perform o d).2 := by
      refine ⟨elsewhere.steady, fun other there => ?_, fun other there number path writes => ?_⟩
      · have more := List.mem_cons_of_mem task there
        exact elsewhere.alike _ (cacheName_isName ..)
          (independent.apart_of_ne more here (others other there)) _ (untouched.alike other more)
      · have more := List.mem_cons_of_mem task there
        have silent := independent.writes_apart more here (others other there) writes
        exact (elsewhere.content number path silent).trans
          (untouched.content other more number path writes)
    obtain ⟨reports, wrote, kept⟩ := ih (independent.of_sublist (List.sublist_cons_self task rest)) later
    simp only [Transfer.inTurn, List.map_cons]
    refine ⟨by rw [reports, same], fun other there number path writes => ?_, fun number path silent => ?_⟩
    · obtain rfl | there := List.mem_cons.mp there
      · -- None of those that follow saves to where this one has saved.
        rw [kept number path fun next after =>
          independent.writes_apart here (List.mem_cons_of_mem _ after) (others next after).symm writes]
        exact saved number path writes
      · exact wrote other there number path writes
    · rw [kept number path fun next after => silent next (List.mem_cons_of_mem _ after)]
      exact elsewhere.content number path (silent task here)

end Courier.Crew
