import Courier.Rule.Compiled
import Courier.Storage.Registry
import Courier.Transfer.Job

/-! Where a task goes: to its own storage, unless a rule of its user says otherwise. Every rule is
held against the same relative path, and the last one that matches counts. -/
namespace Courier.Router

/-- The relative path that every rule starts from. -/
def basePath (task : Task) : String :=
  if task.path.isEmpty then task.fileName else task.path

/-- The text of a task's message, asked for when the first rule needs it. -/
inductive MessageText where
  | unknown
  | known (text : Option String)
  deriving DecidableEq, Repr

/-- The text of the message that a task came with. Articles have none, and neither has a message
that cannot be looked up. -/
def lookUpText (task : Task) : Job (Option String) :=
  match task.origin with
  | .message _ chat post => do
    match ← Job.request (.messageText chat post) with
    | .ok text => return text
    | .error _ => return none
  | .article _ => return none

def messageText (task : Task) : MessageText → Job (Option String)
  | .known text => return text
  | .unknown => lookUpText task

/-- The route that a rule gives to a task which it matches. -/
def routeOf (registry : Registry) (task : Task) (base : String) (rule : Rule) : Option Route :=
  match registry.get task.user (rule.target task.storage) with
  | .ok storage => some ⟨storage, storage.locate (rule.relativePath base)⟩
  | .error _ => none

/-- Whether a rule means a task, and the message text as far as it is known then. -/
def means (task : Task) (compiled : CompiledRule) (text : MessageText) :
    Job (Bool × MessageText) :=
  match compiled.rule.kind with
  | .fileName => return (compiled.isMatch task.fileName, text)
  | .message => do
    let found ← messageText task text
    return (found.any compiled.isMatch, .known found)

/-- Goes through rules in order; `best` is the route of the last one so far that gave one. -/
def applyRules (patterns : PatternCompiler) (registry : Registry) (task : Task) (base : String) :
    List Rule → MessageText → Option Route → Job (Option Route)
  | [], _, best => return best
  | rule :: rest, text, best =>
    match CompiledRule.compile patterns rule with
    | .error _ => applyRules patterns registry task base rest text best
    | .ok compiled => do
      let (matched, text) ← means task compiled text
      let best := if matched then (routeOf registry task base rule).or best else best
      applyRules patterns registry task base rest text best

/-- The destination of a task. This fails only if the task's own storage cannot be had. -/
def resolve (patterns : PatternCompiler) (registry : Registry) (task : Task) :
    Job (Except TransferError Route) :=
  match registry.get task.user task.storage with
  | .error e => return .error e
  | .ok storage => do
    let base := basePath task
    let own : Route := ⟨storage, storage.locate base⟩
    match ← Job.request (.userRules task.user) with
    | .error _ => return .ok own
    | .ok rules =>
      if !rules.apply || rules.rules.isEmpty then return .ok own
      let best ← applyRules patterns registry task base rules.rules .unknown none
      return .ok (best.getD own)

end Courier.Router
