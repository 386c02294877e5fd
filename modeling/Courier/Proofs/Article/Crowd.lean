import Courier.Proofs.Disk.Saving
import Courier.Proofs.Job.Meets
import Courier.Proofs.Article.Naming

/-! The images of an article, saved a few at a time. Every image has a job of its own; the jobs go on in
any order, one question at a time, and the first one that fails ends them all. An image has its own cache
file and its own path in the storage, so that no other job changes what its job sees. -/
namespace Courier.Article

open FileTree (Spares Tended tended_of_none)

/-- What the saving of images changes. -/
structure Stock where
  files : FileTree
  /-- Entries of storages by medium, path and content, in the order in which they were written. -/
  stored : List (Medium × String × Bytes)
  /-- Links of the images that have been asked for. -/
  fetched : List String
  /-- Cache files that have been given up but stay for a while. -/
  handed : List String

def Stock.start (files : FileTree) : Stock :=
  ⟨files, [], [], []⟩

/-- What the saving of images works with. -/
structure Supply where
  page : String → List Node
  bytes : String → Bytes
  /-- Whether cache files are removed as soon as they are given up. -/
  prompt : Bool
  /-- Whether the task may be canceled. -/
  cancelable : Bool

/-- How a question can be answered, and what the stock is then. Everything may fail at any time; a write
that fails may leave anything in its file. A save that comes through is no single answer. -/
def Supply.answers (env : Supply) (s : Stock) : (r : Request) → r.Reply → Stock → Prop
  | .canceled, reply, s' => s' = s ∧ (reply = true → env.cancelable = true)
  | .page slug, reply, s' => s' = s ∧ (reply = none → env.cancelable = true) ∧
      ∀ nodes, reply = some (.ok nodes) → nodes = env.page slug
  | .image link, reply, s' => s' = { s with fetched := s.fetched ++ [link] } ∧
      (reply = none → env.cancelable = true) ∧
      ∀ bytes, reply = some (.ok bytes) → bytes = env.bytes link
  | .writeFile path content, reply, s' => ∃ files, s' = { s with files } ∧
      Spares path s.files files ∧ (reply = .ok () → files.read path = .ok content)
  | .save .., reply, s' => s' = s ∧ reply ≠ .ok ()
  | .dispose path, _, s' => s' = if env.prompt then { s with files := Disk.discard s.files path }
      else { s with handed := s.handed ++ [path] }
  | _, _, s' => s' = s

/-- How far an image has come. -/
inductive Status where
  | waiting
  /-- Its job is under way. A save that has begun may have read the file. -/
  | running (job : Job (Except TransferError Unit)) (read : Option Bytes)
  | saved

def Status.isRunning : Status → Bool
  | running .. => true
  | _ => false

/-- The images of a page in document order, and the stock. -/
structure Crowd where
  parts : List (Image × Status)
  stock : Stock

def Crowd.start (images : List Image) (s : Stock) : Crowd :=
  ⟨images.map (·, .waiting), s⟩

section Steps

variable (env : Supply) (policy : RetryPolicy) (fanout : Nat) (target : Target)

/-- What can happen to one image. A save reads the file at one time and puts it down at another. -/
inductive Move (image : Image) (s : Stock) : Status → Stock → Status → Prop where
  | begin : Move image s .waiting s (.running (image.save policy target) none)
  | answer {r : Request} {next : r.Reply → Job (Except TransferError Unit)} {read : Option Bytes}
      (reply : r.Reply) {s' : Stock} (answered : env.answers s r reply s') :
      Move image s (.running (.ask r next) read) s' (.running (next reply) none)
  | pickUp {medium : Medium} {localPath path : String} {read : Option Bytes}
      {next : (Request.save medium localPath path).Reply → Job (Except TransferError Unit)}
      {content : Bytes} (found : s.files.read localPath = .ok content) :
      Move image s (.running (.ask (.save medium localPath path) next) read) s
        (.running (.ask (.save medium localPath path) next) (some content))
  | putDown {medium : Medium} {localPath path : String} {content : Bytes}
      {next : (Request.save medium localPath path).Reply → Job (Except TransferError Unit)} :
      Move image s (.running (.ask (.save medium localPath path) next) (some content))
        { s with stored := s.stored ++ [(medium, path, content)] } (.running (next (.ok ())) none)
  | finish {read : Option Bytes} : Move image s (.running (.done (.ok ())) read) s .saved

variable {env policy target}

theorem Move.ne_waiting {image : Image} {s s' : Stock} {status status' : Status}
    (moved : Move env policy target image s status s' status') : status' ≠ .waiting := by
  cases moved <;> nofun

variable (env policy target)

/-- One thing that happens: an image moves on, or a file goes that has been given up. Images are begun in
order as long as there is room. -/
inductive Step : Crowd → Crowd → Prop where
  | move {before after : List (Image × Status)} {image : Image} {status status' : Status} {s s' : Stock}
      (moved : Move env policy target image s status s' status')
      (inTurn : status = .waiting → (∀ p ∈ before, p.2 ≠ .waiting) ∧
        (before ++ after).countP (·.2.isRunning) < max fanout 1) :
      Step ⟨before ++ (image, status) :: after, s⟩ ⟨before ++ (image, status') :: after, s'⟩
  | expire {parts : List (Image × Status)} {s : Stock} {path : String} (given : path ∈ s.handed) :
      Step ⟨parts, s⟩ ⟨parts, { s with files := Disk.discard s.files path }⟩

/-- Whether an image has an operation on a file under way. -/
def Status.WorksOn (path : String) : Status → Prop
  | running (.ask (.writeFile other _) _) _ | running (.ask (.dispose other) _) _ => other = path
  | _ => False

/-- What operations on files that were under way when they were dropped may still do. -/
abbrev Late (parts : List (Image × Status)) : FileTree → FileTree → Prop :=
  Relation.ReflTransGen fun files files' =>
    ∃ p ∈ parts, ∃ path, p.2.WorksOn path ∧ Spares path files files'

/-- How it ends: when all images are saved, or when one has failed, and the others are dropped. -/
inductive Ends : Crowd → Except TransferError Unit → Stock → Prop where
  | all {parts : List (Image × Status)} {s : Stock} (saved : ∀ p ∈ parts, p.2 = .saved) :
      Ends ⟨parts, s⟩ (.ok ()) s
  | failed {parts : List (Image × Status)} {s : Stock} {image : Image} {e : TransferError}
      {read : Option Bytes} {files : FileTree}
      (has : (image, .running (.done (.error e)) read) ∈ parts) (late : Late parts s.files files) :
      Ends ⟨parts, s⟩ (.error e) { s with files }

/-- A whole run: the images of the page are collected and saved, and they are counted if all goes well. -/
def Downloads (link : Link) (files : FileTree) (result : Except TransferError Nat) (s' : Stock) :
    Prop :=
  ∃ t collected s, (collect link).Trace t collected ∧
    Answering.Follows env.answers (.start files) t s ∧
    match collected with
    | .error e => result = .error e ∧ s' = s
    | .ok images => ∃ c outcome,
        Relation.ReflTransGen (Step env policy fanout target) (.start images s) c ∧
        Ends c outcome s' ∧ result = outcome.map fun _ => images.length

end Steps

/-- What the job of an image sees of the stock: its cache file, what has been saved under its path, and
whether it has given up its file. -/
structure View where
  cached : Option Bytes
  stored : List Bytes
  given : Bool

def Image.view (target : Target) (image : Image) (s : Stock) : View where
  cached := s.files.fileAt (image.cachePath target)
  stored := (s.stored.filter fun e => e.1 = target.medium ∧ e.2.1 = image.remotePath target).map (·.2.2)
  given := s.handed.contains (image.cachePath target)

section Views

variable (target : Target) (image : Image) (s : Stock)

theorem view_cached : (image.view target s).cached = s.files.fileAt (image.cachePath target) := rfl

theorem view_files (files : FileTree) : image.view target { s with files } =
    { image.view target s with cached := files.fileAt (image.cachePath target) } := by
  simp only [Image.view]

theorem view_fetched (fetched : List String) :
    image.view target { s with fetched } = image.view target s := by
  simp only [Image.view]

theorem view_stored (content : Bytes) :
    image.view target
        { s with stored := s.stored ++ [(target.medium, image.remotePath target, content)] } =
      { image.view target s with stored := (image.view target s).stored ++ [content] } := by
  simp [Image.view]

theorem view_handed : image.view target { s with handed := s.handed ++ [image.cachePath target] } =
    { image.view target s with given := true } := by
  simp [Image.view]

end Views

section Alone

variable (env : Supply) (target : Target) (tidy : Prop)

/-- The world of one image's job, as far as the job sees it. If the directory is `tidy` every cache file
can be removed. -/
def Supply.alone : Answering View
  | v, .image link, reply, v' => v' = v ∧ ∀ bytes, reply = some (.ok bytes) → bytes = env.bytes link
  | v, .writeFile _ content, reply, v' => v'.stored = v.stored ∧ v'.given = v.given ∧
      (reply = .ok () → v'.cached = some content)
  | v, .save .., reply, v' => v'.cached = v.cached ∧ v'.given = v.given ∧
      match reply with
      | .ok () => ∃ content, v.cached = some content ∧ v'.stored = v.stored ++ [content]
      | .error _ => v'.stored = v.stored
  | v, .dispose _, _, v' => v'.stored = v.stored ∧ (tidy → env.prompt = true → v'.cached = none)
  | v, _, _, v' => v' = v

/-- What the job of an image may ask. It saves only the bytes of the image, and once it has given up its
file it asks nothing any more. -/
def Image.may (image : Image) (v : View) (r : Request) : Prop :=
  v.given = false ∧ match r with
  | .canceled => True
  | .image link => link = image.link
  | .writeFile path _ => path = image.cachePath target
  | .save medium localPath path => medium = target.medium ∧ localPath = image.cachePath target ∧
      path = image.remotePath target ∧ v.cached = some (env.bytes image.link)
  | .dispose path => path = image.cachePath target
  | _ => False

/-- What an image's job comes to: it has saved the bytes, once, or it has saved nothing. -/
def Image.Right (image : Image) (v : View) (result : Except TransferError Unit) : Prop :=
  (match result with
    | .ok () => v.stored = [env.bytes image.link]
    | .error _ => v.stored = []) ∧ (tidy → env.prompt = true → v.cached = none)

/-- Whether nothing has been saved of an image, and its file not been given up. -/
def View.Unsaved (v : View) : Prop :=
  v.stored = [] ∧ v.given = false

def Image.Saved (image : Image) (v : View) (_ : Unit) : Prop :=
  v.stored = [env.bytes image.link] ∧ v.given = false

/-- An attempt saves the bytes of the image, or it has saved nothing. -/
theorem attempt_meets (image : Image) {v : View} (unsaved : v.Unsaved) :
    (image.attempt target).Meets (env.alone tidy) (image.may env target)
      (Tried View.Unsaved (image.Saved env)) v := by
  obtain ⟨unsaved, has⟩ := unsaved
  simp only [Image.attempt, Job.bind_eq, Job.request, Job.ask_bind, Job.done_bind]
  refine ⟨⟨has, rfl⟩, fun reply v₁ ⟨same, exact⟩ => ?_⟩
  subst same
  dsimp only
  cases fetched : orCanceled reply with
  | error e => exact ⟨unsaved, has⟩
  | ok bytes =>
    have hbytes : bytes = env.bytes image.link := by
      cases reply with
      | none => simp [orCanceled] at fetched
      | some reply => exact exact bytes (congrArg some fetched)
    refine ⟨⟨has, rfl⟩, fun reply v₂ ⟨stored, given, cached⟩ => ?_⟩
    cases reply with
    | error e => exact ⟨stored.trans unsaved, given.trans has⟩
    | ok =>
      have holds : v₂.cached = some (env.bytes image.link) := by rw [cached rfl, hbytes]
      refine ⟨⟨given.trans has, rfl, rfl, rfl, holds⟩, fun reply v₃ ⟨_, given', saved⟩ => ?_⟩
      cases reply with
      | error e => exact ⟨saved.trans (stored.trans unsaved), given'.trans (given.trans has)⟩
      | ok =>
        obtain ⟨content, read, saved⟩ := saved
        obtain rfl := Option.some.inj (holds.symm.trans read)
        refine ⟨?_, given'.trans (given.trans has)⟩
        rw [saved, stored, unsaved, List.nil_append]

theorem outcome_error (image : Image) (e : RetryError CallError) :
    ∃ told, image.outcome (.error e) = .error told := by
  cases e with
  | canceled made => exact ⟨_, rfl⟩
  | exhausted made last =>
    rw [Image.outcome]
    split
    · exact ⟨_, rfl⟩
    · exact ⟨_, rfl⟩

/-- The job of an image saves its bytes, or it fails and has saved nothing; its file is given up last. -/
theorem save_meets (policy : RetryPolicy) (image : Image) {v : View} (unsaved : v.Unsaved) :
    (image.save policy target).Meets (env.alone tidy) (image.may env target)
      (image.Right env tidy) v := by
  have looks (v : View) (unsaved : v.Unsaved) : image.may env target v .canceled ∧
      ∀ reply v', env.alone tidy v .canceled reply v' → v'.Unsaved := by
    refine ⟨⟨unsaved.2, trivial⟩, fun reply v' same => ?_⟩
    rw [show v' = v from same]
    exact unsaved
  have tries (n : Nat) (v : View) (unsaved : v.Unsaved) :=
    attempt_meets env target tidy image unsaved
  refine Job.meets_bind.mpr ((withRetry_meets looks tries policy unsaved).imp fun v outcome ended => ?_)
  cases outcome with
  | ok =>
    obtain ⟨saved, given⟩ := ended
    exact ⟨⟨given, rfl⟩, fun _ v' ⟨stored, cleared⟩ => ⟨stored.trans saved, cleared⟩⟩
  | error e =>
    obtain ⟨unsaved, given⟩ := ended
    obtain ⟨told, fails⟩ := outcome_error image e
    refine ⟨⟨given, rfl⟩, fun _ v' ⟨stored, cleared⟩ => ?_⟩
    show Image.Right env tidy image v' (image.outcome (.error e))
    rw [fails]
    exact ⟨stored.trans unsaved, cleared⟩

end Alone

end Courier.Article
