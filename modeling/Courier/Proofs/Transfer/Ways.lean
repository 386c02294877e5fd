import Courier.Proofs.Transfer.Routing
import Courier.Transfer.Run

/-! The ways of a transfer. It is canceled before it has begun, it finds no route, or its task is routed
and worked on; and the work cannot make the cache directory, collects the images of an article, or
carries the file of a message and gives up its cache file. -/
namespace Courier.Transfer

variable {engine : Engine} {task task' : Task} {medium : Medium} {stage : Stage} {t : List Exchange}

theorem openArticle_trace {link : Link}
    (ran : (openArticle engine task medium link).Trace t (task', stage)) :
    task' = task ∧ ((∃ e, stage = .ended (.error e)) ∨ ∃ fanout images,
      stage = .images fanout
        ⟨medium, task.path, engine.cacheDir, task.id, engine.libraries.links⟩ images ∧
      (Article.collect link).Trace t (.ok images)) := by
  unfold openArticle at ran
  split at ran
  · obtain ⟨rfl, rfl⟩ := Prod.mk.inj (Job.trace_done.mp ran).2
    exact ⟨rfl, Or.inl ⟨_, rfl⟩⟩
  · simp only [Job.bind_eq, Job.trace_bind] at ran
    obtain ⟨collected, t₁, t₂, rfl, collecting, ran⟩ := ran
    cases collected with
    | error e =>
      obtain ⟨rfl, rfl⟩ := Prod.mk.inj (Job.trace_done.mp ran).2
      exact ⟨rfl, Or.inl ⟨e, rfl⟩⟩
    | ok images =>
      obtain ⟨rfl, rest⟩ := Job.trace_done.mp ran
      obtain ⟨rfl, rfl⟩ := Prod.mk.inj rest
      rw [List.append_nil]
      exact ⟨rfl, Or.inr ⟨_, images, rfl, collecting⟩⟩

/-- The ways of the work of a routed task. -/
inductive Works (engine : Engine) (task : Task) (medium : Medium) :
    List Exchange → Task → Stage → Prop where
  | unmade (e : OsError) :
      Works engine task medium [⟨.makeDirectories engine.cacheDir, .error e⟩] task
        (.ended (.error (.file engine.cacheDir e)))
  | article {link : Link} {t : List Exchange} {task' : Task} {stage : Stage}
      (origin : task.origin = .article link)
      (opening : (openArticle engine task medium link).Trace t (task', stage)) :
      Works engine task medium (⟨.makeDirectories engine.cacheDir, .ok ()⟩ :: t) task' stage
  | message {file : RemoteFile} {chat post : Int} {t : List Exchange} {task' : Task}
      {result : Except TransferError Unit} (origin : task.origin = .message file chat post)
      (carrying : (carry engine task file medium
        (Path.below engine.cacheDir (cacheName task.id file.name))).Trace t (task', result)) :
      Works engine task medium (⟨.makeDirectories engine.cacheDir, .ok ()⟩ ::
        (t ++ [⟨.dispose (Path.below engine.cacheDir (cacheName task.id file.name)), ()⟩])) task'
        (.ended result)

theorem works_of_trace (ran : (work engine task medium).Trace t (task', stage)) :
    Works engine task medium t task' stage := by
  simp only [work, Job.bind_eq, Job.request, Job.ask_bind, Job.done_bind, Job.trace_ask] at ran
  obtain ⟨reply, t, rfl, rest⟩ := ran
  cases reply with
  | error e =>
    simp only [Job.pure_eq, Job.trace_done, Prod.mk.injEq] at rest
    obtain ⟨rfl, rfl, rfl⟩ := rest
    exact .unmade e
  | ok =>
    dsimp only at rest
    split at rest
    · next origin => exact .article origin rest
    · next origin =>
      simp only [Job.trace_bind, Job.trace_ask, Job.pure_eq, Job.trace_done, Prod.mk.injEq] at rest
      obtain ⟨⟨carried, result⟩, t₁, _, rfl, carrying, _, _, rfl, rfl, rfl, rfl⟩ := rest
      exact .message origin carrying

/-- The ways of the work on a message, which is never that on an article. -/
theorem works_of_message {file : RemoteFile} {chat post : Int}
    (message : task.origin = .message file chat post)
    (ran : (work engine task medium).Trace t (task', stage)) :
    (∃ e, t = [⟨.makeDirectories engine.cacheDir, .error e⟩] ∧ task' = task ∧
      stage = .ended (.error (.file engine.cacheDir e))) ∨
    ∃ t₁ result, t = ⟨.makeDirectories engine.cacheDir, .ok ()⟩ ::
        (t₁ ++ [⟨.dispose (Path.below engine.cacheDir (cacheName task.id file.name)), ()⟩]) ∧
      stage = .ended result ∧ (carry engine task file medium
        (Path.below engine.cacheDir (cacheName task.id file.name))).Trace t₁ (task', result) := by
  cases works_of_trace ran with
  | unmade e => exact Or.inl ⟨e, rfl, rfl, rfl⟩
  | article origin => exact absurd (message.symm.trans origin) nofun
  | message origin carrying =>
    obtain ⟨rfl, -, -⟩ := Origin.message.inj (message.symm.trans origin)
    exact Or.inr ⟨_, _, rfl, rfl, carrying⟩

theorem forall_mem_of_resolving {P : Exchange → Prop} {patterns : PatternCompiler}
    {registry : Registry}
    {result : Except TransferError Route} (canceled : P ⟨.canceled, false⟩)
    (rules : ∀ user reply, P ⟨.userRules user, reply⟩)
    (text : ∀ chat post reply, P ⟨.messageText chat post, reply⟩)
    (resolving : (Router.resolve patterns registry task).Trace t result) :
    ∀ x ∈ ⟨.canceled, false⟩ :: t, P x := by
  have asks : (Router.resolve patterns registry task).Asks fun q => ∀ reply, P ⟨q, reply⟩ :=
    Router.resolve_asks rules text registry task
  intro x hx
  rcases List.mem_cons.mp hx with rfl | hx
  · exact canceled
  · exact asks.forall_mem resolving x hx x.2

/-- The ways of a transfer. -/
inductive Runs (engine : Engine) (task : Task) : List Exchange → Task → Stage → Prop where
  | canceled : Runs engine task [⟨.canceled, true⟩] task (.ended (.error .canceled))
  | unrouted {t : List Exchange} {e : TransferError}
      (resolving : (Router.resolve engine.libraries.patterns engine.registry
        (prepared task)).Trace t (.error e)) :
      Runs engine task (⟨.canceled, false⟩ :: t) (prepared task) (.ended (.error e))
  | working {t₁ t₂ : List Exchange} {route : Route} {task' : Task} {stage : Stage}
      (resolving : (Router.resolve engine.libraries.patterns engine.registry
        (prepared task)).Trace t₁ (.ok route))
      (working : (work engine (routed (prepared task) route) route.storage.medium).Trace t₂
        (task', stage)) :
      Runs engine task (⟨.canceled, false⟩ :: (t₁ ++ t₂)) task' stage

theorem runs_of_trace (ran : (run engine task).Trace t (task', stage)) :
    Runs engine task t task' stage := by
  simp only [run, Job.bind_eq, Job.request, Job.ask_bind, Job.done_bind, Job.trace_ask] at ran
  obtain ⟨canceled, t, rfl, rest⟩ := ran
  cases canceled with
  | true =>
    simp only [if_true, Job.pure_eq, Job.trace_done, Prod.mk.injEq] at rest
    obtain ⟨rfl, rfl, rfl⟩ := rest
    exact .canceled
  | false =>
    simp only [Bool.false_eq_true, if_false, Job.trace_bind] at rest
    obtain ⟨resolved, t₁, t₂, rfl, resolving, rest⟩ := rest
    cases resolved with
    | error e =>
      simp only [Job.pure_eq, Job.trace_done, Prod.mk.injEq] at rest
      obtain ⟨rfl, rfl, rfl⟩ := rest
      rw [List.append_nil]
      exact .unrouted resolving
    | ok route => exact .working resolving rest

end Courier.Transfer
