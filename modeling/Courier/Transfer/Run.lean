import Courier.Article.Download
import Courier.Transfer.Reader
import Courier.Transfer.Router

/-! The transfer of one task: its route, the download into a cache file, and the hand-over to the
storage. A transfer never changes the status of its task. -/
namespace Courier

/-- What the engine leaves to others: the patterns of rules, the links of images, and the contents of
files. -/
structure Libraries where
  patterns : PatternCompiler
  links : LinkReader
  /-- The extension that the first bytes of a content call for, without its dot. -/
  sniff : Bytes → Option String

structure Engine where
  registry : Registry
  policy : RetryPolicy
  cacheDir : String
  /-- Images of an article saved at the same time; nothing where articles cannot be fetched. -/
  fanout : Option Nat
  libraries : Libraries

/-- What is left of a transfer after its own work. -/
inductive Stage where
  | ended (result : Except TransferError Unit)
  /-- The images of an article, to be saved a few at a time. -/
  | images (fanout : Nat) (target : Article.Target) (images : List Article.Image)

namespace Transfer

def fileSink (path : String) : Reader.Sink Unit where
  write _ bytes := do return (← Job.request (.appendFile path bytes), ())
  flush _ := return (.ok (), ())

/-- Downloads a file chunk by chunk, with reports on the way. -/
def download (engine : Engine) (task : Task) (file : RemoteFile) (cachePath : String) :
    Job (Except TransferError Unit) := do
  match ← Job.request (.createFile cachePath) with
  | .error e => return .error (.file cachePath e)
  | .ok () =>
    let reader := ((Reader.whole file chunkSize).withPolicy engine.policy).withProgress
      (progressInterval file.size) task.summary
    let (result, _) ← reader.copyTo (fileSink cachePath) ()
    return result.map fun _ => ()

/-- Downloads a file of unknown size in one bounded request. -/
def downloadInline (engine : Engine) (task : Task) (file : RemoteFile) (cachePath : String) :
    Job (Except TransferError Unit) := do
  match ← fetchWithRetry engine.policy (Job.request (.fetchWhole file.location chunkSize)) with
  | .error e => return .error e
  | .ok bytes =>
    match ← Job.request (.writeFile cachePath bytes) with
    | .error e => return .error (.file cachePath e)
    | .ok () =>
      Job.request (.progress task.summary bytes.size bytes.size)
      return .ok ()

/-- Bytes of a file that its content is told by. -/
def headSize : Nat := 8192

/-- The extension that a file's name lacks and its content shows. -/
def missingExtension (sniff : Bytes → Option String) (fileName cachePath : String) :
    Job (Option String) :=
  if Path.hasExtension fileName then return none
  else do
    match ← Job.request (.readHead cachePath headSize) with
    | .ok head => return sniff head
    | .error _ => return none

/-- Adds an extension to the name of a task's file and to its destination. -/
def withExtension (task : Task) (extension : String) : Task :=
  { task.rename (task.fileName ++ "." ++ extension) with path := task.path ++ "." ++ extension }

def fetchFile (engine : Engine) (task : Task) (file : RemoteFile) (cachePath : String) :
    Job (Except TransferError Unit) :=
  if file.isInline then downloadInline engine task file cachePath
  else download engine task file cachePath

/-- Saves a downloaded file where the task says once the file has its extension. -/
def persist (engine : Engine) (task : Task) (medium : Medium) (cachePath : String) :
    Job (Task × Except TransferError Unit) := do
  let task := match ← missingExtension engine.libraries.sniff task.fileName cachePath with
    | some extension => withExtension task extension
    | none => task
  return (task, ← saveWithRetry engine.policy medium cachePath task.path)

/-- Downloads the file of a routed task and saves it. -/
def carry (engine : Engine) (task : Task) (file : RemoteFile) (medium : Medium)
    (cachePath : String) : Job (Task × Except TransferError Unit) := do
  match ← fetchFile engine task file cachePath with
  | .error e => return (task, .error e)
  | .ok () => persist engine task medium cachePath

/-- A task with a name and a relative path, which are made up if it came without. -/
def prepared (task : Task) : Task :=
  let task := task.withName
  if task.path.isEmpty then { task with path := task.fileName } else task

def routed (task : Task) (route : Route) : Task :=
  { task with storage := route.storage.name, path := route.path, started := true }

def openArticle (engine : Engine) (task : Task) (medium : Medium) (link : Link) :
    Job (Task × Stage) :=
  match engine.fanout with
  | none => return (task, .ended (.error (.article .notConfigured)))
  | some fanout => do
    match ← Article.collect link with
    | .error e => return (task, .ended (.error e))
    | .ok images =>
      let target := ⟨medium, task.path, engine.cacheDir, task.id, engine.libraries.links⟩
      return (task, .images fanout target images)

def work (engine : Engine) (task : Task) (medium : Medium) : Job (Task × Stage) := do
  match ← Job.request (.makeDirectories engine.cacheDir) with
  | .error e => return (task, .ended (.error (.file engine.cacheDir e)))
  | .ok () =>
    match task.origin with
    | .article link => openArticle engine task medium link
    | .message file _ _ =>
      let cachePath := Path.below engine.cacheDir (cacheName task.id file.name)
      let (task, result) ← carry engine task file medium cachePath
      Job.request (.dispose cachePath)
      return (task, .ended result)

/-- Transfers the file of a task, or finds the images of its article. The task that comes back has
its route recorded. -/
def run (engine : Engine) (task : Task) : Job (Task × Stage) := do
  if ← Job.request .canceled then return (task, .ended (.error .canceled))
  let task := prepared task
  match ← Router.resolve engine.libraries.patterns engine.registry task with
  | .error e => return (task, .ended (.error e))
  | .ok route => work engine (routed task route) route.storage.medium

end Transfer

end Courier
