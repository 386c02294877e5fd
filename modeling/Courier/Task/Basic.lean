import Courier.Digest.Sha256
import Courier.Link
import Courier.Text.Percent

/-! Transfer tasks: what is fetched, for whom, where it goes, and how far it has come. -/
namespace Courier

/-- A remote object. The location means something to its source only. -/
structure RemoteFile where
  location : String
  /-- Bytes; zero marks a small object that is fetched in one request. -/
  size : Nat
  name : String
  deriving DecidableEq, Repr, Inhabited

namespace RemoteFile

def isInline (file : RemoteFile) : Bool :=
  file.size == 0

/-- Digest over location, size and name. -/
def hash (file : RemoteFile) : String :=
  Digest.sha256Hex (file.location ++ toString file.size ++ file.name)

end RemoteFile

inductive Status where
  | pending
  | succeeded
  | failed
  | canceled
  deriving DecidableEq, Repr, Inhabited

namespace Status

def isTerminal : Status → Bool
  | pending => false
  | _ => true

def name : Status → String
  | pending => "pending"
  | succeeded => "succeeded"
  | failed => "failed"
  | canceled => "canceled"

def all : List Status := [pending, succeeded, failed, canceled]

def ofName? (text : String) : Option Status :=
  all.find? fun status => status.name == text

/-- A status moves once, from pending to a terminal one. -/
def canBecome (status next : Status) : Bool :=
  status == pending && next.isTerminal

end Status

/-- Identity of what a task fetches, by which it is canceled. -/
structure Key where
  text : String
  deriving DecidableEq, Repr

namespace Key

def ofMessage (chat post : Int) : Key :=
  ⟨toString chat ++ ":" ++ toString post⟩

def ofLink (link : String) : Key :=
  ⟨Digest.sha256Hex link⟩

end Key

/-- Where the bytes of a task come from. -/
inductive Origin where
  /-- The file attached to a chat message. -/
  | message (file : RemoteFile) (chat post : Int)
  /-- An article page, whose images are saved one by one. -/
  | article (link : Link)
  deriving DecidableEq, Repr

namespace Origin

def key : Origin → Key
  | message _ chat post => .ofMessage chat post
  | article link => .ofLink link.text

def file? : Origin → Option RemoteFile
  | message file _ _ => some file
  | article _ => none

/-- The remote name of a file, or the decoded last segment of a page link. -/
def fileName : Origin → String
  | message file _ _ => file.name
  | article link => ((pageSlug link).map Text.percentDecoded).getD ""

/-- Gives a file another name; an article keeps its own. -/
def rename (name : String) : Origin → Origin
  | message file chat post => .message { file with name } chat post
  | article link => .article link

def display : Origin → String
  | message file chat post =>
    "[" ++ toString chat ++ ":" ++ toString post ++ "]:" ++ file.name
  | article link => "[telegraph]:" ++ link.text

end Origin

abbrev TaskId := Nat

structure Task where
  id : TaskId
  origin : Origin
  status : Status
  /-- The chosen storage, and the routed one once there is a route. -/
  storage : String
  /-- Relative when submitted, resolved by the storage once there is a route; empty if never set. -/
  path : String
  user : Int
  /-- Whether the task has been routed. -/
  started : Bool
  error : Option String
  /-- Whether the task's cancellation has been asked for. -/
  canceled : Bool
  deriving DecidableEq, Repr

/-- A step back, or a second step, of a status. -/
structure InvalidTransition where
  source : Status
  target : Status
  deriving DecidableEq, Repr

namespace Task

def new (id : TaskId) (origin : Origin) (storage : String) (user : Int) (path : String) : Task :=
  { id, origin, status := .pending, storage, path, user, started := false, error := none,
    canceled := false }

def key (task : Task) : Key :=
  task.origin.key

def fileName (task : Task) : String :=
  task.origin.fileName

def rename (task : Task) (name : String) : Task :=
  { task with origin := task.origin.rename name }

def advance (task : Task) (next : Status) : Except InvalidTransition Task :=
  if task.status.canBecome next then .ok { task with status := next }
  else .error ⟨task.status, next⟩

/-- Ends a task as failed and keeps the reason. -/
def fail (task : Task) (reason : String) : Except InvalidTransition Task :=
  (task.advance .failed).map fun task => { task with error := some reason }

def askCancel (task : Task) : Task :=
  { task with canceled := true }

end Task

/-- What a notification says of a task. -/
structure Summary where
  id : TaskId
  key : Key
  fileName : String
  storage : String
  path : String
  deriving DecidableEq, Repr

def Task.summary (task : Task) : Summary :=
  ⟨task.id, task.key, task.fileName, task.storage, task.path⟩

/-- The text for a terminal status that the owner of a task reads. -/
def terminalMessage (summary : Summary) (status : Status) (error : Option String) : String :=
  match status with
  | .succeeded =>
    "Saved " ++ summary.fileName ++ " to [" ++ summary.storage ++ "]:" ++ summary.path
  | .failed => "Failed to save " ++ summary.fileName ++ ": " ++ error.getD "unknown error"
  | .canceled => "Canceled " ++ summary.fileName
  | .pending => summary.fileName ++ " is still pending"

end Courier
