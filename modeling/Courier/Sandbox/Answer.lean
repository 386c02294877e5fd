import Courier.Disk.Save
import Courier.Disk.Source
import Courier.Sandbox.Activity

/-! How a world in memory answers the questions of a job that is done for a task. -/
namespace Courier.Sandbox

open Activity

/-- Takes the next entry of a script and does what comes before its effect. `task` is what the entry
can cancel. -/
def fault (task : Option TaskId) (take : World → Fault × World) : Activity Effect := do
  let entry ← act take
  sleep entry.delay
  if entry.cancels then
    if let some task := task then act fun w => ((), w.cancel task)
  return entry.effect

/-- The next entry of the script of the objects. -/
def takeObjectFault (w : World) : Fault × World :=
  match w.source with
  | .disk _ => ({}, w)
  | .objects o =>
    let (entry, script) := o.script.next
    (entry, { w with source := .objects { o with script } })

def onObjects {α : Type} (dflt : α) (f : Objects → α × Objects) (w : World) : α × World :=
  match w.source with
  | .disk _ => (dflt, w)
  | .objects o =>
    let (a, o) := f o
    (a, { w with source := .objects o })

/-- Does what an effect says of a fetch. -/
def underEffect (effect : Effect) (fetch : Activity (Except CallError Bytes)) :
    Activity (Except CallError Bytes) :=
  match effect with
  | .pass => fetch
  | .fail e => pure (.error e)
  | .give bytes => pure (.ok bytes)

/-- An operation on files that only reads. -/
def readFiles {α : Type} (f : FileTree → α) : Activity α :=
  onFiles fun files => (f files, files)

/-- Fetches from the objects, under their script. `token` is the task that the script can cancel. -/
def fetchObject (token : Option TaskId) (serve : Objects → Except CallError Bytes × Objects) :
    Activity (Except CallError Bytes) := do
  let effect ← fault token takeObjectFault
  underEffect effect do
    sleep (← look (·.objects.delay))
    act (onObjects (.ok ByteArray.empty) serve)

def fetchChunk (token : Option TaskId) (location : String) (offset limit : Nat) :
    Activity (Except CallError Bytes) := do
  match ← look (·.source) with
  | .disk root => readFiles fun files => Disk.fetchChunk files root location offset limit
  | .objects _ =>
    act fun w => ((), w.changeObjects fun o => { o with requests := o.requests ++ [(offset, limit)] })
    fetchObject token fun o => o.chunk location offset limit

def fetchWhole (token : Option TaskId) (location : String) (limit : Nat) :
    Activity (Except CallError Bytes) := do
  match ← look (·.source) with
  | .disk root => readFiles fun files => Disk.fetchWhole files root location limit
  | .objects _ => fetchObject token fun o => o.whole location limit

def shelve (task : TaskId) (number : Nat) (localPath remotePath : String) :
    Activity (Except CallError Unit) := do
  let attempt ← act fun w =>
    let w := w.setShelf number fun s => { s with
      attempts := s.attempts + 1
      locals := s.locals ++ [localPath]
      active := s.active + 1
      peak := max s.peak (s.active + 1) }
    (((w.shelf? number).map (·.attempts)).getD 0, w)
  let result ← keep attempt
  act fun w => ((), w.setShelf number fun s => { s with active := s.active - 1 })
  return result
where
  /-- The save itself: the time it takes, its failure if one is due, and the file. -/
  keep (attempt : Nat) : Activity (Except CallError Unit) := do
    let delay ← look fun w => ((w.shelf? number).map (·.delay)).getD 0
    if ← sleepUnless task delay then return .error .canceled
    let fails ← act fun w =>
      let fails := (takeOne (((w.shelf? number).map (·.failures)).getD 0)).1
      (fails, w.setShelf number fun s => { s with failures := (takeOne s.failures).2 })
    if fails then return .error (.network ("save attempt " ++ toString attempt ++ " failed"))
    match ← readFiles (·.read localPath) with
    | .error e => return .error (.os e)
    | .ok content =>
      act fun w => ((), w.setShelf number fun s => s.put remotePath content)
      return .ok ()

def takeShelfFault (number : Nat) (w : World) : Fault × World :=
  match w.shelf? number with
  | none => ({}, w)
  | some shelf =>
    (shelf.script.next.1, w.setShelf number fun s => { s with script := s.script.next.2 })

def save (task : TaskId) (medium : Medium) (localPath remotePath : String) :
    Activity (Except CallError Unit) := do
  match medium with
  | .disk =>
    let canceled ← look (·.isCanceled task)
    onFiles fun files => Disk.save files canceled localPath remotePath
  | .backend number =>
    match ← fault (some task) (takeShelfFault number) with
    | .fail e => return .error e
    | .give _ => return .ok ()
    | .pass => shelve task number localPath remotePath

def fetchPage (token : Option TaskId) (slug : String) :
    Activity (Except CallError (List Article.Node)) := do
  let effect ← fault token fun w =>
    let (entry, pageScript) := w.gallery.pageScript.next
    (entry, { w with gallery := { w.gallery with pageScript } })
  match effect with
  | .fail e => return .error e
  | _ => look (·.gallery.page slug)

def fetchImage (token : Option TaskId) (link : String) : Activity (Except CallError Bytes) := do
  let effect ← fault token fun w =>
    let (entry, imageScript) := w.gallery.imageScript.next
    (entry, { w with gallery := { w.gallery with imageScript } })
  underEffect effect (act fun w =>
    let (result, gallery) := w.gallery.image link
    (result, { w with gallery }))

/-- Removes a cache file, or sets the alarm for that. -/
def dispose (path : String) : Activity Unit := do
  match ← look (·.retention) with
  | none => onFiles fun files => ((), (files.remove path).toOption.getD files)
  | some ms => act fun w => ((), w.setAlarm (w.now + ms) (.remove path))

/-- Answers a job's question. `task` is the task that the job is done for, and `token` is what the
scripts of fetches can cancel. -/
def answer (task : TaskId) (token : Option TaskId) : (r : Request) → Activity r.Reply
  | .canceled => look (·.isCanceled task)
  | .userRules user => look (·.directory.rulesFor user)
  | .messageText chat post =>
    act fun w =>
      let (text, directory) := w.directory.text chat post
      (text, { w with directory })
  | .makeDirectories path => onFiles (·.pave path)
  | .createFile path => changeFiles (·.create path)
  | .appendFile path more => changeFiles fun files => .ok (files.append path more)
  | .writeFile path content => changeFiles (·.write path content)
  | .readHead path most => readFiles fun files => (files.read path).map (·.extract 0 most)
  | .fetchChunk location offset limit => race task (fetchChunk token location offset limit)
  | .fetchWhole location limit => race task (fetchWhole token location limit)
  | .save medium localPath remotePath => save task medium localPath remotePath
  | .page slug => race task (fetchPage token slug)
  | .image link => race task (fetchImage token link)
  | .dispose path => dispose path
  | .progress summary read total =>
    act fun w => ((), { w with reports := w.reports ++ [(summary, read, total)] })

/-- Does a job for a task while nothing else runs. -/
def World.perform {α : Type} (w : World) (task : TaskId) (token : Option TaskId) (job : Job α) :
    α × World :=
  (runJob (answer task token) job w).settle

end Courier.Sandbox
