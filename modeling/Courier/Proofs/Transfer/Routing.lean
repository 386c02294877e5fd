import Courier.Proofs.Job.Trace
import Courier.Transfer.Router
import Mathlib.Data.List.Basic

/-! Where a task goes, said without the order in which rules are tried: of the rules that have an
effect on the task the last one decides, and its own storage where there is none. -/
namespace Courier.Router

/-- The text of a task's message as far as it can be known: articles have none, and neither has a
message whose look-up fails. -/
def knownText (task : Task) (text : Except CallError (Option String)) : Option String :=
  match task.origin, text with
  | .message .., .ok text => text
  | _, _ => none

/-- Whether a task is meant by a rule of a kind whose pattern tests subjects. -/
def isMeant (task : Task) (text : Except CallError (Option String)) (kind : RuleKind)
    (isMatch : String → Bool) : Bool :=
  match kind with
  | .fileName => isMatch task.fileName
  | .message => (knownText task text).any isMatch

/-- The storage that a rule sends a task to: the task's own where the rule names none, or leaves the
choice to the task. -/
def storageOf (task : Task) (rule : Rule) : String :=
  if rule.storage = "" ∨ rule.storage = "CHOSEN" then task.storage else rule.storage

theorem target_eq (task : Task) (rule : Rule) : rule.target task.storage = storageOf task rule := by
  unfold Rule.target storageOf Rule.chosenStorage
  simp

/-- Whether a rule has an effect on a task: it compiles, it means the task, and the user may use the
storage that it sends the task to. -/
def hasEffect (patterns : PatternCompiler) (registry : Registry) (task : Task)
    (text : Except CallError (Option String)) (rule : Rule) : Bool :=
  match patterns rule.pattern with
  | .error _ => false
  | .ok isMatch =>
    isMeant task text rule.kind isMatch && (registry.get task.user (storageOf task rule)).isOk

/-- The rules that have an effect on a task, in order; none where they are off or unknown. -/
def effective (patterns : PatternCompiler) (registry : Registry) (task : Task)
    (rules : Except CallError UserRules) (text : Except CallError (Option String)) : List Rule :=
  match rules with
  | .error _ => []
  | .ok rules => if rules.apply then rules.rules.filter (hasEffect patterns registry task text) else []

/-- Where the last rule with an effect sends a task, or where its own storage puts it. -/
def destination (patterns : PatternCompiler) (registry : Registry) (task : Task)
    (rules : Except CallError UserRules) (text : Except CallError (Option String)) :
    Except TransferError Route :=
  match registry.get task.user task.storage with
  | .error e => .error e
  | .ok own =>
    let last := (effective patterns registry task rules text).getLast?
    .ok ((last.bind (routeOf registry task (basePath task))).getD ⟨own, own.locate (basePath task)⟩)

/-- What is known of users and messages, as an answer tells it. -/
def Told (rules : Except CallError UserRules) (text : Except CallError (Option String)) :
    Exchange → Prop
  | ⟨.userRules _, reply⟩ => reply = rules
  | ⟨.messageText .., reply⟩ => reply = text
  | _ => True

theorem exists_told (rules : Except CallError UserRules)
    (text : Except CallError (Option String)) (r : Request) : ∃ reply, Told rules text ⟨r, reply⟩ := by
  cases r with
  | userRules user => exact ⟨rules, rfl⟩
  | messageText chat post => exact ⟨text, rfl⟩
  | _ => exact ⟨Request.someReply _, trivial⟩

/-- Whether a question is for the text of a message. -/
def isLookUp : Request → Bool
  | .messageText .. => true
  | _ => false

/-- How often the text of a message is asked for. -/
def lookUps (t : List Exchange) : Nat :=
  t.countP (isLookUp ·.1)

section Traces

variable {patterns : PatternCompiler} {registry : Registry} {task : Task} {rules : Except CallError UserRules}
  {text : Except CallError (Option String)} {t : List Exchange}

theorem lookUpText_trace {found : Option String} (run : (lookUpText task).Trace t found)
    (told : ∀ x ∈ t, Told rules text x) : found = knownText task text ∧ lookUps t ≤ 1 := by
  unfold lookUpText at run
  unfold knownText
  cases ho : task.origin with
  | article link =>
    simp only [ho, Job.pure_eq, Job.trace_done] at run
    exact ⟨run.2, by simp [run.1, lookUps]⟩
  | message file chat post =>
    simp only [ho, Job.bind_eq, Job.request, Job.ask_bind, Job.done_bind, Job.trace_ask] at run
    obtain ⟨reply, t, rfl, rest⟩ := run
    have hr : reply = text := told _ (List.mem_cons_self ..)
    subst hr
    cases reply <;> simp only [Job.pure_eq, Job.trace_done] at rest <;>
      exact ⟨rest.2, by simp [rest.1, lookUps, isLookUp]⟩

/-- Whether what is remembered of a message is what can be known of it. -/
def MessageText.Agrees (task : Task) (text : Except CallError (Option String)) :
    MessageText → Prop
  | .unknown => True
  | .known found => found = knownText task text

/-- How often a text may still be asked for. -/
def MessageText.spare : MessageText → Nat
  | .unknown => 1
  | .known _ => 0

theorem means_trace {compiled : CompiledRule} {before after : MessageText} {matched : Bool}
    (run : (means task compiled before).Trace t (matched, after))
    (told : ∀ x ∈ t, Told rules text x) (agrees : before.Agrees task text) :
    matched = isMeant task text compiled.rule.kind compiled.isMatch ∧ after.Agrees task text ∧
      lookUps t + after.spare ≤ before.spare := by
  unfold means at run
  unfold isMeant
  cases hk : compiled.rule.kind with
  | fileName =>
    simp only [hk, Job.pure_eq, Job.trace_done, Prod.mk.injEq] at run
    obtain ⟨rfl, rfl, rfl⟩ := run
    exact ⟨rfl, agrees, by simp [lookUps]⟩
  | message =>
    simp only [hk, Job.bind_eq, Job.trace_bind, Job.pure_eq, Job.trace_done, Prod.mk.injEq] at run
    obtain ⟨found, t₁, _, rfl, asked, rfl, rfl, rfl⟩ := run
    rw [List.append_nil] at told ⊢
    cases before with
    | known remembered =>
      simp only [messageText, Job.pure_eq, Job.trace_done] at asked
      obtain ⟨rfl, rfl⟩ := asked
      have ha : found = knownText task text := agrees
      subst ha
      exact ⟨rfl, rfl, by simp [lookUps, MessageText.spare]⟩
    | unknown =>
      obtain ⟨rfl, hl⟩ := lookUpText_trace asked told
      exact ⟨rfl, rfl, hl⟩

theorem routeOf_isSome (registry : Registry) (task : Task) (base : String) (rule : Rule) :
    (routeOf registry task base rule).isSome =
      (registry.get task.user (storageOf task rule)).isOk := by
  unfold routeOf
  rw [target_eq]
  cases registry.get task.user (storageOf task rule) <;> rfl

theorem hasEffect_eq {rule : Rule} :
    hasEffect patterns registry task text rule = match CompiledRule.compile patterns rule with
      | .error _ => false
      | .ok compiled => isMeant task text compiled.rule.kind compiled.isMatch &&
          (registry.get task.user (storageOf task rule)).isOk := by
  unfold hasEffect CompiledRule.compile
  cases patterns rule.pattern <;> rfl

theorem routeOf_isSome_of_hasEffect (base : String) {rule : Rule}
    (effect : hasEffect patterns registry task text rule = true) :
    (routeOf registry task base rule).isSome = true := by
  rw [routeOf_isSome]
  unfold hasEffect at effect
  split at effect
  · contradiction
  · exact (Bool.and_eq_true_iff.mp effect).2

theorem applyRules_trace {base : String} {list : List Rule} {known : MessageText}
    {best result : Option Route}
    (run : (applyRules patterns registry task base list known best).Trace t result)
    (told : ∀ x ∈ t, Told rules text x) (agrees : known.Agrees task text) :
    result = ((list.filter (hasEffect patterns registry task text)).getLast?.bind
      (routeOf registry task base)).or best ∧ lookUps t ≤ known.spare := by
  -- What is remembered of the message and the best route so far both change from rule to rule.
  induction list generalizing t known best with
  | nil =>
    simp only [applyRules, Job.pure_eq, Job.trace_done] at run
    obtain ⟨rfl, rfl⟩ := run
    simp [lookUps]
  | cons rule rest ih =>
    unfold applyRules at run
    cases hc : CompiledRule.compile patterns rule with
    | error e =>
      have he : hasEffect patterns registry task text rule = false := by
        rw [hasEffect_eq, hc]
      rw [List.filter_cons_of_neg (by simp [he])]
      simp only [hc] at run
      exact ih run told agrees
    | ok compiled =>
      simp only [hc, Job.bind_eq, Job.trace_bind] at run
      obtain ⟨⟨matched, known'⟩, t₁, t₂, rfl, asked, others⟩ := run
      have told₁ := fun x hx => told x (List.mem_append_left _ hx)
      have told₂ := fun x hx => told x (List.mem_append_right _ hx)
      obtain ⟨rfl, agrees', hl⟩ := means_trace asked told₁ agrees
      obtain ⟨hr, hl'⟩ := ih others told₂ agrees'
      have he : hasEffect patterns registry task text rule =
          (isMeant task text compiled.rule.kind compiled.isMatch &&
            (routeOf registry task base rule).isSome) := by
        rw [hasEffect_eq, hc, routeOf_isSome]
      refine ⟨?_, by simp only [lookUps, List.countP_append] at *; omega⟩
      rw [hr, List.filter_cons, he]
      cases hm : isMeant task text compiled.rule.kind compiled.isMatch
      · simp
      · cases hroute : routeOf registry task base rule with
        | none => simp
        | some route =>
          simp only [Option.isSome_some, Bool.and_self, ↓reduceIte, List.getLast?_cons,
            Option.bind_some, Option.some_or]
          cases hlast : (rest.filter (hasEffect patterns registry task text)).getLast? with
          | none => simp [hroute]
          | some last =>
            -- A later rule has an effect only if it has a route, which takes the place of this one.
            have hm := (List.mem_filter.mp (List.mem_of_getLast? hlast)).2
            obtain ⟨_, hs⟩ := Option.isSome_iff_exists.mp (routeOf_isSome_of_hasEffect base hm)
            simp [hs]

theorem hasEffect_of_getLast?_effective {rule : Rule}
    (last : (effective patterns registry task rules text).getLast? = some rule) :
    hasEffect patterns registry task text rule = true := by
  have hm := List.mem_of_getLast? last
  unfold effective at hm
  split at hm
  · contradiction
  · split at hm
    · exact (List.mem_filter.mp hm).2
    · contradiction

/-- A destination is in a storage that the user may use: in the task's own, or in that of a rule. -/
theorem destination_cases {route : Route} (h : destination patterns registry task rules text = .ok route) :
    (∃ storage, registry.get task.user task.storage = .ok storage ∧
      route = ⟨storage, storage.locate (basePath task)⟩) ∨
    ∃ rule ∈ effective patterns registry task rules text, ∃ storage,
      registry.get task.user (rule.target task.storage) = .ok storage ∧
      route = ⟨storage, storage.locate (rule.relativePath (basePath task))⟩ := by
  unfold destination at h
  cases hg : registry.get task.user task.storage with
  | error e => simp [hg] at h
  | ok own =>
    simp only [hg, Except.ok.injEq] at h
    subst h
    cases hlast : (effective patterns registry task rules text).getLast?.bind
        (routeOf registry task (basePath task)) with
    | none => exact Or.inl ⟨own, rfl, rfl⟩
    | some route =>
      obtain ⟨rule, last, hroute⟩ := Option.bind_eq_some_iff.mp hlast
      unfold routeOf at hroute
      split at hroute
      · next storage hs =>
        exact Or.inr ⟨rule, List.mem_of_getLast? last, storage, hs, (Option.some.inj hroute).symm⟩
      · contradiction

/-- A task's destination is that of the last rule with an effect. The text of its message is asked
for once at most. -/
theorem resolve_trace {result : Except TransferError Route}
    (run : (resolve patterns registry task).Trace t result) (told : ∀ x ∈ t, Told rules text x) :
    result = destination patterns registry task rules text ∧ lookUps t ≤ 1 := by
  unfold resolve at run
  unfold destination
  cases hg : registry.get task.user task.storage with
  | error e =>
    simp only [hg, Job.pure_eq, Job.trace_done] at run
    exact ⟨run.2, by simp [run.1, lookUps]⟩
  | ok own =>
    simp only [hg, Job.bind_eq, Job.request, Job.ask_bind, Job.done_bind, Job.trace_ask] at run
    obtain ⟨reply, t, rfl, rest⟩ := run
    have hr : reply = rules := told _ (List.mem_cons_self ..)
    subst hr
    have told' := fun x hx => told x (List.mem_cons_of_mem _ hx)
    have hl : lookUps (⟨.userRules task.user, reply⟩ :: t) = lookUps t := by
      simp [lookUps, isLookUp]
    rw [hl]
    cases reply with
    | error e =>
      simp only [Job.pure_eq, Job.trace_done] at rest
      exact ⟨by simp [rest.2, effective], by simp [rest.1, lookUps]⟩
    | ok user =>
      by_cases hu : (!user.apply || user.rules.isEmpty) = true
      · simp only [hu, ↓reduceIte, Job.pure_eq, Job.trace_done] at rest
        have hn : effective patterns registry task (.ok user) text = [] := by
          simp only [Bool.or_eq_true, Bool.not_eq_true', List.isEmpty_iff] at hu
          rcases hu with hu | hu <;> simp [effective, hu]
        exact ⟨by simp [rest.2, hn], by simp [rest.1, lookUps]⟩
      · simp only [hu, Bool.false_eq_true, ↓reduceIte, Job.trace_bind, Job.pure_eq,
          Job.trace_done] at rest
        obtain ⟨best, t₁, _, rfl, applied, rfl, rfl⟩ := rest
        rw [List.append_nil] at told' ⊢
        obtain ⟨rfl, hl⟩ := applyRules_trace applied told' trivial
        have ha : user.apply = true := by
          simp only [Bool.or_eq_true, Bool.not_eq_true', not_or, Bool.not_eq_false] at hu
          exact hu.1
        exact ⟨by simp [effective, ha], hl⟩

theorem resolve_asks {P : Request → Prop} (rules : ∀ user, P (.userRules user))
    (text : ∀ chat post, P (.messageText chat post)) (registry : Registry) (task : Task) :
    (resolve patterns registry task).Asks P := by
  have means_asks (compiled : CompiledRule) (known : MessageText) :
      (means task compiled known).Asks P := by
    unfold means
    split
    · exact Job.asks_done ..
    · refine Job.Asks.bind ?_ fun _ => Job.asks_done ..
      cases known with
      | known found => exact Job.asks_done ..
      | unknown =>
        show (lookUpText task).Asks P
        unfold lookUpText
        split
        · exact ⟨text .., fun reply => by cases reply <;> exact Job.asks_done ..⟩
        · exact Job.asks_done ..
  have applyRules_asks (base : String) (list : List Rule) (known : MessageText)
      (best : Option Route) : (applyRules patterns registry task base list known best).Asks P := by
    induction list generalizing known best with
    | nil => exact Job.asks_done ..
    | cons rule rest ih =>
      unfold applyRules
      split
      · exact ih known best
      · exact (means_asks _ known).bind fun found => ih ..
  unfold resolve
  split
  · exact Job.asks_done ..
  · refine ⟨rules .., fun reply => ?_⟩
    cases reply with
    | error e => exact Job.asks_done ..
    | ok rules =>
      dsimp only [Job.bind_eq, Job.done_bind]
      split
      · exact Job.asks_done ..
      · exact (applyRules_asks ..).bind fun _ => Job.asks_done ..

theorem effective_insert {apply : Bool} {front noise back : List Rule}
    (without : ∀ rule ∈ noise, hasEffect patterns registry task text rule = false) :
    effective patterns registry task (.ok ⟨apply, front ++ noise ++ back⟩) text =
      effective patterns registry task (.ok ⟨apply, front ++ back⟩) text := by
  have hn : noise.filter (hasEffect patterns registry task text) = [] := by
    rw [List.filter_eq_nil_iff]
    intro rule hm
    rw [without rule hm]
    exact Bool.false_ne_true
  simp only [effective, List.filter_append, hn, List.append_nil]

end Traces

/-- Resolving always comes to a result, which is the last effective rule's route made from the
task's own relative path. It fails only where the task's own storage cannot be had, and rules
without an effect may come and go anywhere. How patterns are compiled and matched is left open. -/
theorem last_effective_rule_decides (patterns : PatternCompiler) (registry : Registry) (task : Task)
    (rules : Except CallError UserRules) (text : Except CallError (Option String)) :
    (∃ t result, (resolve patterns registry task).Trace t result ∧ ∀ x ∈ t, Told rules text x) ∧
    let base := if task.path = "" then task.fileName else task.path
    ∀ t result, (resolve patterns registry task).Trace t result → (∀ x ∈ t, Told rules text x) →
      lookUps t ≤ 1 ∧
      (∀ e, result = .error e ↔ registry.get task.user task.storage = .error e) ∧
      (∀ own, registry.get task.user task.storage = .ok own →
        match (effective patterns registry task rules text).getLast? with
        | none => result = .ok ⟨own, own.locate base⟩
        | some rule => ∃ storage, registry.get task.user (storageOf task rule) = .ok storage ∧
            result = .ok ⟨storage, storage.locate (Path.join rule.dir base)⟩) ∧
      (∀ apply front noise back, rules = .ok ⟨apply, front ++ noise ++ back⟩ →
        (∀ rule ∈ noise, hasEffect patterns registry task text rule = false) →
        ∀ t' result', (resolve patterns registry task).Trace t' result' →
          (∀ x ∈ t', Told (.ok ⟨apply, front ++ back⟩) text x) → result' = result) := by
  constructor
  · obtain ⟨t, result, run, told⟩ := (resolve patterns registry task).exists_trace_forall
      (exists_told rules text)
    exact ⟨t, result, run, told⟩
  intro base t result run told
  have hb : basePath task = base := by simp [basePath, base]
  obtain ⟨hr, hl⟩ := resolve_trace run told
  refine ⟨hl, ?_, ?_, ?_⟩
  · intro e
    rw [hr, destination]
    cases registry.get task.user task.storage <;> simp
  · intro own hg
    simp only [destination, hg, hb] at hr
    cases hlast : (effective patterns registry task rules text).getLast? with
    | none => simp [hr, hlast]
    | some rule =>
      have hs := routeOf_isSome_of_hasEffect base (hasEffect_of_getLast?_effective hlast)
      simp only [hlast, Option.bind_some] at hr
      unfold routeOf at hr hs
      rw [target_eq] at hr hs
      cases htarget : registry.get task.user (storageOf task rule) with
      | error e => simp [htarget] at hs
      | ok storage => exact ⟨storage, htarget, by simp [hr, htarget, Rule.relativePath]⟩
  · intro apply front noise back hrules without t' result' run' told'
    obtain ⟨hr', _⟩ := resolve_trace run' told'
    subst hrules
    rw [hr, hr', destination, destination, effective_insert without]

end Courier.Router
