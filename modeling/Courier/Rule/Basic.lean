import Courier.Document
import Courier.Path

/-! Routing rules of a user: which tasks they mean, and where those go instead. -/
namespace Courier

/-- What a rule's pattern is matched against. -/
inductive RuleKind where
  | fileName
  | message
  deriving DecidableEq, Repr, Inhabited

namespace RuleKind

def name : RuleKind → String
  | fileName => "file-name-regex"
  | message => "message-regex"

def ofName? (text : String) : Option RuleKind :=
  [fileName, message].find? fun kind => kind.name == text

end RuleKind

structure Rule where
  kind : RuleKind
  pattern : String
  storage : String
  /-- Directory put before the relative path of a task. -/
  dir : String
  deriving DecidableEq, Repr, Inhabited

namespace Rule

/-- The storage name that stands for the task's own choice. -/
def chosenStorage : String := "CHOSEN"

/-- The storage a rule routes to, given the task's own choice. -/
def target (rule : Rule) (chosen : String) : String :=
  if rule.storage.isEmpty || rule.storage == chosenStorage then chosen else rule.storage

/-- The relative path that a rule gives to a task with another one. -/
def relativePath (rule : Rule) (base : String) : String :=
  Path.join rule.dir base

open Document in
def reader : Reader Rule := fun dialect d => do
  let [kind, pattern, storage, dir] ← readFields ["type", "pattern", "storage", "dir"] dialect d
    | none
  return {
    kind := ← required (readChoice RuleKind.ofName?) dialect kind
    pattern := ← required readText dialect pattern
    storage := ← optional "" readText dialect storage
    dir := ← optional "" readText dialect dir }

end Rule

/-- The rules of a user in order, and whether they are used at all. -/
structure UserRules where
  apply : Bool
  rules : List Rule
  deriving DecidableEq, Repr, Inhabited

open Document in
def UserRules.reader : Reader UserRules := fun dialect d => do
  let [apply, rules] ← readFields ["apply_rule", "rules"] dialect d | none
  return {
    apply := ← optional false readBool dialect apply
    rules := ← optional [] (readList Rule.reader) dialect rules }

end Courier
