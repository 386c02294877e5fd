import Courier.Article.Page
import Courier.Rule.Lookup
import Courier.Sandbox.Script
import Courier.Storage.Registry

/-! A world in memory that the engine can be run in: files, objects, storages, articles and a clock.
Each part keeps a record of what it was asked for and can be told to fail. -/
namespace Courier.Sandbox

def takeOne (left : Nat) : Bool × Nat :=
  (left > 0, left - 1)

/-- The sum of two words, or the largest word where the sum is too large for one. -/
def saturatingSum (a b : Nat) : Nat :=
  min (a + b) (UInt64.size - 1)

/-- Remote objects by location. -/
structure Objects where
  entries : List (String × Bytes) := []
  /-- Time that every fetch takes. -/
  delay : Nat := 0
  /-- Fetches that still fail. -/
  failures : Nat := 0
  /-- Offsets that give nothing the next time they are asked for. -/
  emptyOnce : List Nat := []
  script : Script := []
  /-- All requests for a chunk, by offset and limit. -/
  requests : List (Nat × Nat) := []
  /-- Those that came through to the objects. -/
  chunks : List (Nat × Nat) := []
  /-- Limits of the requests for a whole object that came through. -/
  wholes : List Nat := []

namespace Objects

def put (objects : Objects) (location : String) (content : Bytes) : Objects :=
  { objects with
    entries := (location, content) :: objects.entries.filter (·.1 != location) }

def find (objects : Objects) (location : String) : Except CallError Bytes :=
  match objects.entries.find? (·.1 == location) with
  | some (_, content) => .ok content
  | none => .error (.notFound location)

def chunk (objects : Objects) (location : String) (offset limit : Nat) :
    Except CallError Bytes × Objects :=
  let objects := { objects with chunks := objects.chunks ++ [(offset, limit)] }
  let (fails, failures) := takeOne objects.failures
  let objects := { objects with failures }
  if fails then (.error (.network ("chunk fetch at " ++ toString offset ++ " failed")), objects)
  else if objects.emptyOnce.contains offset then
    (.ok ByteArray.empty, { objects with emptyOnce := objects.emptyOnce.filter (· != offset) })
  else ((objects.find location).map fun content => content.extract (min offset content.size)
    (min (saturatingSum offset limit) content.size), objects)

def whole (objects : Objects) (location : String) (limit : Nat) :
    Except CallError Bytes × Objects :=
  let objects := { objects with wholes := objects.wholes ++ [limit] }
  let (fails, failures) := takeOne objects.failures
  let objects := { objects with failures }
  if fails then (.error (.network "fetch failed"), objects)
  else ((objects.find location).map fun content => content.extract 0 (min limit content.size), objects)

end Objects

inductive Source where
  | objects (objects : Objects)
  /-- Files of the file system, relative ones below a root. -/
  | disk (root : Option String)

def Source.objects? : Source → Option Objects
  | objects o => some o
  | disk _ => none

structure Shelf where
  name : String
  kind : StorageKind := .disk
  /-- The base of all its paths. -/
  base : String := ""
  /-- Time that every save takes, cut short by a cancellation. -/
  delay : Nat := 0
  /-- Saves that still fail. -/
  failures : Nat := 0
  script : Script := []
  /-- Saves asked for so far. -/
  attempts : Nat := 0
  /-- Local paths handed over, in order. -/
  locals : List String := []
  /-- Saves under way, and the most there have been. -/
  active : Nat := 0
  peak : Nat := 0
  /-- Files by path. -/
  saved : List (String × Bytes) := []

def Shelf.put (shelf : Shelf) (path : String) (content : Bytes) : Shelf :=
  { shelf with saved := (path, content) :: shelf.saved.filter (·.1 != path) }

structure Gallery where
  pages : List (String × List Article.Node) := []
  images : List (String × Bytes) := []
  /-- Image fetches that still fail. -/
  failures : Nat := 0
  pageScript : Script := []
  imageScript : Script := []
  /-- Links of the images asked for, in order. -/
  fetched : List String := []

namespace Gallery

def page (gallery : Gallery) (slug : String) : Except CallError (List Article.Node) :=
  match gallery.pages.find? (·.1 == slug) with
  | some (_, nodes) => .ok nodes
  | none => .error (.notFound ("page " ++ slug))

def image (gallery : Gallery) (link : String) : Except CallError Bytes × Gallery :=
  let gallery := { gallery with fetched := gallery.fetched ++ [link] }
  let (fails, failures) := takeOne gallery.failures
  let gallery := { gallery with failures }
  if fails then (.error (.network ("GET " ++ link ++ " failed")), gallery)
  else match gallery.images.find? (·.1 == link) with
    | some (_, content) => (.ok content, gallery)
    | none => (.error (.notFound link), gallery)

end Gallery

structure Directory where
  rules : List (Int × UserRules) := []
  texts : MessageTexts := .empty
  /-- How every look-up of rules fails, if it does. -/
  rulesError : Option CallError := none
  /-- How every look-up of a text fails, if it does. -/
  textError : Option CallError := none
  /-- Whether look-ups of texts are counted, and how many there have been. -/
  counts : Bool := true
  lookups : Nat := 0

namespace Directory

/-- The rules that a configuration gives to its users; of several entries with one id the last one
counts. -/
def ofConfig (config : Config) (texts : MessageTexts) : Directory where
  rules := config.users.reverse.map fun user => (user.id, user.userRules)
  texts
  counts := false

def rulesFor (d : Directory) (user : Int) : Except CallError UserRules :=
  match d.rulesError, d.rules.find? (·.1 == user) with
  | some e, _ => .error e
  | none, some (_, rules) => .ok rules
  | none, none => .error (.notFound ("user " ++ toString user))

def text (d : Directory) (chat post : Int) : Except CallError (Option String) × Directory :=
  let answer := match d.textError with
    | some e => .error e
    | none => .ok (d.texts.get? chat post)
  (answer, { d with lookups := if d.counts then d.lookups + 1 else d.lookups })

end Directory

/-- What happens by itself at a time. -/
inductive Alarm where
  | cancel (task : TaskId)
  | remove (path : String)

structure World where
  /-- Milliseconds. -/
  now : Nat := 0
  files : FileTree
  source : Source := .objects {}
  shelves : List Shelf := []
  gallery : Gallery := {}
  directory : Directory := {}
  /-- How long cache files stay; they go at once with none. -/
  retention : Option Nat := none
  /-- Alarms by time, earliest first. -/
  alarms : List (Nat × Alarm) := []
  canceled : List TaskId := []
  /-- Progress reports: the task, the bytes read, and all bytes. -/
  reports : List (Summary × Nat × Nat) := []

namespace World

def isCanceled (w : World) (task : TaskId) : Bool :=
  w.canceled.contains task

def cancel (w : World) (task : TaskId) : World :=
  if w.isCanceled task then w else { w with canceled := task :: w.canceled }

def wakes (w : World) : Option TaskId → Bool
  | some task => w.isCanceled task
  | none => false

def setAlarm (w : World) (time : Nat) (alarm : Alarm) : World :=
  { w with alarms := w.alarms.takeWhile (·.1 ≤ time) ++ (time, alarm) ::
      w.alarms.dropWhile (·.1 ≤ time) }

def discard (w : World) (path : String) : World :=
  { w with files := (w.files.remove path).toOption.getD w.files }

def fire (w : World) : Alarm → World
  | .cancel task => w.cancel task
  | .remove path => w.discard path

/-- Lets time pass until `deadline`, or until the watched task is canceled. Alarms of the past go
off, and those before the deadline; what waits for the deadline itself comes before its alarms. -/
def passUntil (w : World) (deadline : Nat) (watch : Option TaskId) : List (Nat × Alarm) → World
  | [] => { w with now := max w.now deadline, alarms := [] }
  | (time, alarm) :: rest =>
    if time ≤ w.now ∨ time < deadline then
      let w := { w with now := max w.now time, alarms := rest }.fire alarm
      if w.wakes watch then w else passUntil w deadline watch rest
    else { w with now := max w.now deadline, alarms := (time, alarm) :: rest }

def pass (w : World) (deadline : Nat) (watch : Option TaskId) : World :=
  if w.wakes watch then w else w.passUntil deadline watch w.alarms

/-- Lets the alarms go off whose time has come. -/
def ring (w : World) : World :=
  w.pass w.now none

/-- The objects of a world; none in one whose source is the file system. -/
def objects (w : World) : Objects :=
  w.source.objects?.getD {}

def changeObjects (w : World) (f : Objects → Objects) : World :=
  match w.source with
  | .objects o => { w with source := .objects (f o) }
  | .disk _ => w

def putObject (w : World) (location : String) (content : Bytes) : World :=
  w.changeObjects (·.put location content)

def failFetches (w : World) (count : Nat) : World :=
  w.changeObjects fun o => { o with failures := count }

def emptyOnceAt (w : World) (offset : Nat) : World :=
  w.changeObjects fun o => { o with emptyOnce := offset :: o.emptyOnce }

def progressOf (w : World) (task : TaskId) : List Nat :=
  (w.reports.filter (·.1.id == task)).map (·.2.1)

/-- A registry of the shelves of a world. -/
def registry (w : World) : Registry :=
  w.shelves.zipIdx.foldl (fun r (shelf, number) =>
    r.register (.backend shelf.name shelf.kind shelf.base number)) .new

def shelf? (w : World) (number : Nat) : Option Shelf :=
  w.shelves[number]?

def setShelf (w : World) (number : Nat) (f : Shelf → Shelf) : World :=
  { w with shelves := w.shelves.modify number f }

end World

end Courier.Sandbox
