import Courier.Article.Page
import Courier.FileTree
import Courier.Storage.Basic

/-! Work that asks the world for things. A job is either done or asks one question and goes on from
the answer, so that a world may answer as it likes, fail, or cancel the task between any two
questions, and a law of a job is a law for all answers. -/
namespace Courier

/-- One question to the world: a call of a capability or a look at the task's own cancellation. -/
inductive Request where
  /-- Has the cancellation of the task been asked for? -/
  | canceled
  | userRules (user : Int)
  | messageText (chat post : Int)
  | makeDirectories (path : String)
  /-- Opens a file for writing and empties it. -/
  | createFile (path : String)
  /-- Adds to the file opened last under this path. -/
  | appendFile (path : String) (more : Bytes)
  | writeFile (path : String) (content : Bytes)
  /-- The first bytes of a file. -/
  | readHead (path : String) (most : Nat)
  /-- Up to `limit` bytes of a remote object from an offset on; given up when the task is canceled. -/
  | fetchChunk (location : String) (offset limit : Nat)
  /-- The first bytes of a remote object; given up when the task is canceled. -/
  | fetchWhole (location : String) (limit : Nat)
  /-- Copies a local file to a storage. -/
  | save (medium : Medium) (localPath remotePath : String)
  /-- The nodes of an article page; given up when the task is canceled. -/
  | page (slug : String)
  /-- The bytes of an image; given up when the task is canceled. -/
  | image (link : String)
  /-- Hands a cache file over for removal, now or later. -/
  | dispose (path : String)
  | progress (summary : Summary) (read total : Nat)

namespace Request

/-- The answer of a call that is given up when the task is canceled: nothing if it was. -/
abbrev Raced (α : Type) := Option (Except CallError α)

abbrev Reply : Request → Type
  | canceled => Bool
  | userRules _ => Except CallError UserRules
  | messageText .. => Except CallError (Option String)
  | makeDirectories _ | createFile _ | appendFile .. | writeFile .. => Except OsError Unit
  | readHead .. => Except OsError Bytes
  | fetchChunk .. | fetchWhole .. | image _ => Raced Bytes
  | save .. => Except CallError Unit
  | page _ => Raced (List Article.Node)
  | dispose _ | progress .. => Unit

end Request

inductive Job (α : Type) where
  | done (a : α)
  | ask (r : Request) (next : r.Reply → Job α)

namespace Job

variable {α β : Type}

def bind (job : Job α) (f : α → Job β) : Job β :=
  match job with
  | done a => f a
  | ask r next => ask r fun reply => (next reply).bind f

instance : Monad Job where
  pure := done
  bind := bind

def request (r : Request) : Job r.Reply :=
  ask r done

@[simp] theorem pure_eq (a : α) : (pure a : Job α) = done a := rfl
@[simp] theorem bind_eq (job : Job α) (f : α → Job β) : job >>= f = job.bind f := rfl
@[simp] theorem done_bind (a : α) (f : α → Job β) : (done a).bind f = f a := rfl
@[simp] theorem ask_bind (r : Request) (next : r.Reply → Job α) (f : α → Job β) :
    (ask r next).bind f = ask r fun reply => (next reply).bind f := rfl

@[simp] theorem bind_done (job : Job α) : job.bind done = job := by
  induction job with
  | done a => rfl
  | ask r next ih => simp only [ask_bind, ih]

theorem bind_assoc {γ : Type} (job : Job α) (f : α → Job β) (g : β → Job γ) :
    (job.bind f).bind g = job.bind fun a => (f a).bind g := by
  induction job with
  | done a => rfl
  | ask r next ih => simp only [ask_bind, ih]

end Job

end Courier
