import Courier.Proofs.Transfer.Disposal

/-! The course that a transfer to a storage of the embedder takes. It makes the cache directory once, works
on no file before that and on its cache file alone after it, and gives that up at its end. What it saves,
it saves where its task says when it ends. -/
namespace Courier

namespace Router

variable {patterns : PatternCompiler} {registry : Registry} {task : Task} {t : List Exchange}

/-- Whether a route leads to a storage of the registry. -/
def Registered (registry : Registry) (route : Route) : Prop :=
  registry.find? route.storage.name = some route.storage

theorem applyRules_registered {base : String} {list : List Rule} {known : MessageText}
    {best result : Option Route}
    (run : (applyRules patterns registry task base list known best).Trace t result)
    (given : ∀ route ∈ best, Registered registry route) :
    ∀ route ∈ result, Registered registry route := by
  induction list generalizing t known best with
  | nil =>
    simp only [applyRules, Job.pure_eq, Job.trace_done] at run
    rw [run.2]
    exact given
  | cons rule rest ih =>
    unfold applyRules at run
    cases hc : CompiledRule.compile patterns rule with
    | error e =>
      simp only [hc] at run
      exact ih run given
    | ok compiled =>
      simp only [hc, Job.bind_eq, Job.trace_bind] at run
      obtain ⟨⟨matched, known'⟩, t₁, t₂, rfl, -, others⟩ := run
      refine ih others fun route chosen => ?_
      cases matched with
      | false => exact given route chosen
      | true =>
        obtain own | ⟨-, old⟩ := Option.or_eq_some_iff.mp chosen
        · unfold routeOf at own
          split at own
          · next storage got =>
            rw [← Option.some.inj own]
            exact Transfer.find?_of_get got
          · contradiction
        · exact given route old

theorem resolve_registered {route : Route} (run : (resolve patterns registry task).Trace t (.ok route)) :
    Registered registry route := by
  unfold resolve at run
  cases got : registry.get task.user task.storage with
  | error e => simp [got] at run
  | ok storage =>
    have own : Registered registry ⟨storage, storage.locate (basePath task)⟩ :=
      Transfer.find?_of_get got
    simp only [got, Job.bind_eq, Job.request, Job.ask_bind, Job.done_bind, Job.trace_ask] at run
    obtain ⟨reply, t, rfl, rest⟩ := run
    cases reply with
    | error e =>
      simp only [Job.pure_eq, Job.trace_done] at rest
      rw [Except.ok.inj rest.2]
      exact own
    | ok rules =>
      dsimp only at rest
      split at rest
      · simp only [Job.pure_eq, Job.trace_done] at rest
        rw [Except.ok.inj rest.2]
        exact own
      · simp only [Job.trace_bind, Job.pure_eq, Job.trace_done] at rest
        obtain ⟨best, t₁, _, rfl, applied, -, same⟩ := rest
        rw [Except.ok.inj same]
        cases best with
        | none => exact own
        | some route => exact applyRules_registered applied (by simp) route rfl

end Router

namespace Transfer

/-- Questions of the work on an own file, if there is one by then, and those that no file is touched by. -/
def Handles (own : Option String) : Request → Prop
  | .createFile path | .appendFile path _ | .writeFile path _ | .readHead path _ => own = some path
  | .save medium path _ => own = some path ∧ ∃ number, medium = .backend number
  | .makeDirectories _ | .dispose _ | .page _ | .image _ => False
  | _ => True

/-- Exchanges that keep to the course with the cache file at a path, whether or not the directory has been
made. -/
def Tidy (dir path : String) : Bool → List Exchange → Prop
  | _, [] => True
  | made, ⟨.makeDirectories other, reply⟩ :: t =>
    made = false ∧ other = dir ∧ (reply = .ok () → Tidy dir path true t) ∧ (reply ≠ .ok () → t = [])
  | made, ⟨.dispose other, _⟩ :: t => made = true ∧ other = path ∧ t = []
  | made, ⟨r, _⟩ :: t => Handles (if made then some path else none) r ∧ Tidy dir path made t

section Tidy

variable {dir path : String} {made : Bool} {t t₁ t₂ : List Exchange} {r : Request} {reply : r.Reply}

theorem tidy_cons (handles : Handles (if made then some path else none) r) :
    Tidy dir path made (⟨r, reply⟩ :: t) ↔ Tidy dir path made t := by
  cases r with
  | makeDirectories | dispose => exact handles.elim
  | _ => exact and_iff_right handles

theorem tidy_append (handles : ∀ x ∈ t₁, Handles (if made then some path else none) x.1)
    (rest : Tidy dir path made t₂) : Tidy dir path made (t₁ ++ t₂) := by
  induction t₁ with
  | nil => exact rest
  | cons x t₁ ih =>
    obtain ⟨r, reply⟩ := x
    refine (tidy_cons (handles _ List.mem_cons_self)).mpr (ih fun x hx => handles x ?_)
    exact List.mem_cons_of_mem _ hx

end Tidy

theorem hasWork_handles (number : Nat) (path : String) :
    HasWork (.backend number) path (Handles (some path)) where
  canceled := trivial
  fetchChunk _ _ _ := trivial
  fetchWhole _ _ := trivial
  progress _ _ _ := trivial
  createFile := rfl
  appendFile _ := rfl
  writeFile _ := rfl
  readHead _ := rfl
  save _ := ⟨rfl, number, rfl⟩

/-- Whether a question saves something. -/
def isSave : Request → Bool
  | .save .. => true
  | _ => false

theorem hasDownload_quiet (path : String) : HasDownload path (isSave · = false) where
  canceled := rfl
  fetchChunk _ _ _ := rfl
  fetchWhole _ _ := rfl
  progress _ _ _ := rfl
  createFile := rfl
  appendFile _ := rfl
  writeFile _ := rfl

variable {engine : Engine} {task task' : Task} {file : RemoteFile} {chat post : Int} {stage : Stage}
  {t : List Exchange} {medium : Medium}

/-- Where a save of a trace that has come through went: to a medium and a path. -/
def SavesAt (t : List Exchange) (medium : Medium) (path : String) : Prop :=
  ∃ localPath, ⟨.save medium localPath path, .ok ()⟩ ∈ t

theorem not_savesAt {path : String} (quiet : ∀ x ∈ t, isSave x.1 = false) : ¬ SavesAt t medium path := by
  rintro ⟨localPath, mem⟩
  exact Bool.noConfusion (quiet _ mem)

theorem SavesAt.mono {t' : List Exchange} {path : String} (saves : SavesAt t medium path)
    (sub : t ⊆ t') : SavesAt t' medium path := by
  obtain ⟨localPath, mem⟩ := saves
  exact ⟨localPath, sub mem⟩

theorem savesAt_append {t₁ t₂ : List Exchange} {path : String}
    (saves : SavesAt (t₁ ++ t₂) medium path) : SavesAt t₁ medium path ∨ SavesAt t₂ medium path := by
  obtain ⟨localPath, mem⟩ := saves
  exact (List.mem_append.mp mem).imp (fun mem => ⟨localPath, mem⟩) fun mem => ⟨localPath, mem⟩

theorem saveWithRetry_savesAt {policy : RetryPolicy} {localPath remotePath path : String}
    {own : Medium} {result : Except TransferError Unit}
    (ran : (saveWithRetry policy own localPath remotePath).Trace t result)
    (saves : SavesAt t medium path) : result = .ok () ∧ medium = own ∧ path = remotePath := by
  obtain ⟨other, mem⟩ := saves
  obtain ⟨front, rfl, rfl, nothing⟩ | ⟨e, rfl, nothing, -⟩ := saveWithRetry_trace ran
  · obtain early | last := List.mem_append.mp mem
    · exact absurd rfl (nothing _ early).2
    · have same : medium = own ∧ other = localPath ∧ path = remotePath := by simpa using last
      exact ⟨rfl, same.1, same.2.2⟩
  · exact absurd rfl (nothing _ mem).2

theorem carry_savesAt {cachePath path : String} {own : Medium} {result : Except TransferError Unit}
    (ran : (carry engine task file own cachePath).Trace t (task', result))
    (saves : SavesAt t medium path) :
    result = .ok () ∧ medium = own ∧ path = task'.path ∧ task'.storage = task.storage := by
  simp only [carry, Job.bind_eq, Job.trace_bind] at ran
  obtain ⟨downloaded, t₁, t₂, rfl, downloading, rest⟩ := ran
  have quiet := (fetchFile_asks engine task file (hasDownload_quiet cachePath)).forall_mem downloading
  cases downloaded with
  | error e =>
    simp only [Job.pure_eq, Job.trace_done] at rest
    rw [rest.1, List.append_nil] at saves
    exact absurd saves (not_savesAt quiet)
  | ok =>
    have saves := (savesAt_append saves).resolve_left (not_savesAt quiet)
    simp only [persist, Job.bind_eq, Job.trace_bind, Job.pure_eq, Job.trace_done,
      Prod.mk.injEq] at rest
    obtain ⟨found, t₃, _, rfl, sniffing, saved, t₄, _, rfl, saving, rfl, rfl, rfl⟩ := rest
    have looks (most : Nat) : isSave (.readHead cachePath most) = false := rfl
    have sniffs := (missingExtension_asks (P := (isSave · = false)) engine.libraries.sniff task.fileName looks).forall_mem
      sniffing
    rw [List.append_nil] at saves
    have saves := (savesAt_append saves).resolve_left (not_savesAt sniffs)
    obtain ⟨rfl, rfl, rfl⟩ := saveWithRetry_savesAt saving saves
    cases found with
    | none => exact ⟨rfl, rfl, rfl, rfl⟩
    | some extension => exact ⟨rfl, rfl, rfl, rfl⟩

theorem work_tidy {number : Nat} (message : task.origin = .message file chat post)
    (ran : (work engine task (.backend number)).Trace t (task', stage)) :
    Tidy engine.cacheDir (Path.below engine.cacheDir (cacheName task.id file.name)) false t ∧
      ∀ medium path, SavesAt t medium path → stage = .ended (.ok ()) ∧ medium = .backend number ∧
        path = task'.path ∧ task'.storage = task.storage := by
  rcases works_of_message message ran with ⟨e, rfl, -, rfl⟩ | ⟨t₁, result, rfl, rfl, carrying⟩
  · refine ⟨⟨rfl, rfl, fun made => ?_, fun _ => rfl⟩, fun medium path saves => ?_⟩
    · contradiction
    · exact absurd saves (not_savesAt (by simp [isSave]))
  · have handles := (carry_asks engine task file (hasWork_handles number
      (Path.below engine.cacheDir (cacheName task.id file.name)))).forall_mem carrying
    refine ⟨⟨rfl, rfl, fun _ => tidy_append handles ⟨rfl, rfl, rfl⟩, fun failed => absurd rfl failed⟩,
      fun medium path saves => ?_⟩
    have saves : SavesAt t₁ medium path := by
      obtain ⟨localPath, mem⟩ := saves
      exact ⟨localPath, by simpa using mem⟩
    obtain ⟨rfl, same⟩ := carry_savesAt carrying saves
    exact ⟨rfl, same⟩

/-- The course of a transfer of a message. -/
theorem run_tidy (shelves : ∀ storage ∈ engine.registry.storages, ∃ number, storage.medium = .backend number)
    (message : task.origin = .message file chat post)
    (ran : (run engine task).Trace t (task', stage)) :
    Tidy engine.cacheDir (cacheFile engine task) false t ∧
      ∀ medium path, SavesAt t medium path → stage = .ended (.ok ()) ∧ path = task'.path ∧
        ∃ storage, engine.registry.find? task'.storage = some storage ∧ storage.medium = medium := by
  have quiet {t : List Exchange} {result : Except TransferError Route}
      (resolving : (Router.resolve engine.libraries.patterns engine.registry (prepared task)).Trace t result) :
      ∀ x ∈ ⟨.canceled, false⟩ :: t, Handles none x.1 ∧ isSave x.1 = false :=
    forall_mem_of_resolving ⟨trivial, rfl⟩ (fun _ _ => ⟨trivial, rfl⟩) (fun _ _ _ => ⟨trivial, rfl⟩)
      resolving
  cases runs_of_trace ran with
  | canceled =>
    refine ⟨⟨trivial, trivial⟩, fun medium path saves => ?_⟩
    exact absurd saves (not_savesAt (by simp [isSave]))
  | unrouted resolving =>
    refine ⟨?_, fun medium path saves => ?_⟩
    · rw [← List.append_nil (_ :: _)]
      exact tidy_append (fun x hx => (quiet resolving x hx).1) trivial
    · exact absurd saves (not_savesAt fun x hx => (quiet resolving x hx).2)
  | @working t₁ _ route _ _ resolving working =>
    have found : engine.registry.find? route.storage.name = some route.storage :=
      Router.resolve_registered resolving
    obtain ⟨number, shelf⟩ := shelves route.storage (List.mem_of_find?_eq_some found)
    simp only [shelf] at working
    have origin := show (routed (prepared task) route).origin = _ from (prepared_spec message).1
    obtain ⟨tidy, saved⟩ := work_tidy origin working
    rw [cachePath_routed message route] at tidy
    rw [← List.cons_append]
    refine ⟨tidy_append (fun x hx => (quiet resolving x hx).1) tidy, fun medium path saves => ?_⟩
    have saves := (savesAt_append saves).resolve_left
      (not_savesAt fun x hx => (quiet resolving x hx).2)
    obtain ⟨rfl, rfl, rfl, storage⟩ := saved medium path saves
    exact ⟨rfl, rfl, route.storage, by rw [storage]; exact found, shelf⟩

end Transfer

end Courier
