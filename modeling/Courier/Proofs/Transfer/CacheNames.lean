import Courier.Proofs.Article.Naming
import Courier.Proofs.Transfer.Asking
import Courier.Proofs.Transfer.Cancellation
import Courier.Proofs.Url.Segments

/-! The names of cache files. A name begins with the id of its task, and an underscore ends the id, so
that no name of one task is a name of another, whichever way it was made. All that a transfer keeps is
under such names, right in the cache directory. -/
namespace Courier

open Courier.Path (IsName)
open Article (Image Node Target imageExtension imagesIn isName_imageCacheName number_of_imageName)

/-- Names of the cache files of a task: that of a message's file, and those of an article's images. -/
inductive IsCacheName (links : LinkReader) (id : TaskId) : String → Prop where
  | message (fileName : String) : IsCacheName links id (cacheName id fileName)
  | image (number : Nat) (link : String) :
    IsCacheName links id (imageCacheName id number (imageExtension links link))

namespace IsCacheName

variable {links : LinkReader} {id other : TaskId} {name otherName : String}

theorem isName (whole : links.IsWhole) (h : IsCacheName links id name) : IsName name := by
  cases h with
  | message fileName => exact cacheName_isName id fileName
  | image number link => exact isName_imageCacheName link whole id number

theorem takeWhile_eq (h : IsCacheName links id name) :
    name.toList.takeWhile Char.isDigit = (toString id).toList := by
  cases h with
  | message fileName => exact takeWhile_cacheName id fileName
  | image number link =>
    refine takeWhile_number id ('_' :: (imageName number (imageExtension links link)).toList)
      (by simp [imageCacheName]) ?_
    rintro _ ⟨⟩
    rfl

theorem id_eq (h : IsCacheName links id name) (ho : IsCacheName links other name) : id = other :=
  number_of_digits (h.takeWhile_eq.symm.trans ho.takeWhile_eq)

theorem ne (apart : id ≠ other) (h : IsCacheName links id name)
    (ho : IsCacheName links other otherName) : name ≠ otherName := by
  rintro rfl
  exact apart (h.id_eq ho)

end IsCacheName

def cacheNameIn (links : LinkReader) (id : TaskId) (image : Image) : String :=
  imageCacheName id image.number (imageExtension links image.link)

theorem cacheNameIn_ne (links : LinkReader) (id : TaskId) {nodes : List Node} {i j : Nat}
    (hi : i < (imagesIn nodes).length) (hj : j < (imagesIn nodes).length) (apart : i ≠ j) :
    cacheNameIn links id (imagesIn nodes)[i] ≠ cacheNameIn links id (imagesIn nodes)[j] := by
  intro same
  rw [cacheNameIn, cacheNameIn, imageCacheName, imageCacheName] at same
  have numbers := number_of_imageName _ _ (String.append_right_inj _ |>.mp same)
  obtain ⟨_, first⟩ := Article.getElem_imagesIn hi
  obtain ⟨_, second⟩ := Article.getElem_imagesIn hj
  rw [first, second] at numbers
  exact apart (Nat.succ.inj numbers)

/-- The file on this side that a question reads, writes or gives up. -/
def Request.localFile? : Request → Option String
  | .createFile path | .appendFile path _ | .writeFile path _ | .readHead path _ => some path
  | .save _ path _ => some path
  | .dispose path => some path
  | _ => none

/-- Whether a question works on no file but one that is right in a directory, under a name of a task. -/
def InCache (links : LinkReader) (dir : String) (id : TaskId) (r : Request) : Prop :=
  ∀ path ∈ r.localFile?, ∃ name, IsCacheName links id name ∧ path = Path.below dir name

variable {links : LinkReader} {dir path : String} {id : TaskId}

theorem inCache_of_none {r : Request} (none : r.localFile? = none) : InCache links dir id r := by
  intro path mem
  rw [none] at mem
  contradiction

theorem inCache_below {r : Request} {name : String} (h : IsCacheName links id name)
    (works : r.localFile? = some (Path.below dir name)) : InCache links dir id r := by
  intro path mem
  rw [works] at mem
  exact ⟨name, h, (Option.some.inj mem).symm⟩

namespace Transfer

theorem hasWork_inCache (dir fileName : String) (id : TaskId) (medium : Medium) :
    HasWork medium (Path.below dir (cacheName id fileName)) (InCache links dir id) where
  canceled := inCache_of_none rfl
  fetchChunk _ _ _ := inCache_of_none rfl
  fetchWhole _ _ := inCache_of_none rfl
  progress _ _ _ := inCache_of_none rfl
  createFile := inCache_below (.message fileName) rfl
  appendFile _ := inCache_below (.message fileName) rfl
  writeFile _ := inCache_below (.message fileName) rfl
  readHead _ := inCache_below (.message fileName) rfl
  save _ := inCache_below (.message fileName) rfl

variable (engine : Engine) (task : Task) {medium : Medium} {t : List Exchange}

theorem openArticle_inCache (medium : Medium) (link : Link) :
    (openArticle engine task medium link).Asks (InCache links dir id) := by
  unfold openArticle
  split
  · exact Job.asks_done ..
  · refine Job.Asks.bind ?_ fun collected => by cases collected <;> exact Job.asks_done ..
    unfold Article.collect
    split
    · exact Job.asks_done ..
    · refine ⟨inCache_of_none rfl, fun nodes => ?_⟩
      rcases nodes with _ | e | nodes
      · exact Job.asks_done ..
      · exact Job.asks_done ..
      · simp only [Job.done_bind]
        split <;> exact Job.asks_done ..

theorem work_inCache (medium : Medium) :
    (work engine task medium).Asks (InCache links engine.cacheDir task.id) := by
  simp only [work, Job.bind_eq, Job.request, Job.ask_bind, Job.done_bind]
  refine ⟨inCache_of_none rfl, fun reply => ?_⟩
  cases reply with
  | error e => exact Job.asks_done ..
  | ok =>
    dsimp only
    split
    · next link _ => exact openArticle_inCache engine task medium link
    · next file _ _ _ =>
      exact (carry_asks engine task file (hasWork_inCache ..)).bind fun _ =>
        ⟨inCache_below (.message file.name) rfl, fun _ => Job.asks_done ..⟩

theorem run_inCache : (run engine task).Asks (InCache links engine.cacheDir task.id) := by
  simp only [run, Job.bind_eq, Job.request, Job.ask_bind, Job.done_bind]
  refine ⟨inCache_of_none rfl, fun canceled => ?_⟩
  cases canceled with
  | true => exact Job.asks_done ..
  | false =>
    refine Job.Asks.bind (Router.resolve_asks (fun _ => inCache_of_none rfl)
      (fun _ _ => inCache_of_none rfl) engine.registry (prepared task)) fun resolved => ?_
    cases resolved with
    | error e => exact Job.asks_done ..
    | ok route =>
      have id : (routed (prepared task) route).id = task.id := (keeps_prepared task).1
      rw [← id]
      exact work_inCache engine (routed (prepared task) route) route.storage.medium

/-- Where the images go that a transfer leaves to be saved, and what they are. -/
def LeavesImages (engine : Engine) (id : TaskId) : Stage → Prop
  | .ended _ => True
  | .images _ target images =>
    target.links = engine.libraries.links ∧ target.cacheDir = engine.cacheDir ∧
      target.task = id ∧ ∃ nodes, images = imagesIn nodes

variable {engine task} {task' : Task} {stage : Stage}

theorem collect_images {link : Link} {images : List Image}
    (ran : (Article.collect link).Trace t (.ok images)) : ∃ nodes, images = imagesIn nodes := by
  unfold Article.collect at ran
  split at ran
  · simp at ran
  · simp only [Job.bind_eq, Job.request, Job.ask_bind, Job.done_bind, Job.trace_ask] at ran
    obtain ⟨reply, rest, -, ran⟩ := ran
    rcases reply with _ | e | nodes
    · simp at ran
    · simp at ran
    · dsimp only at ran
      split at ran
      · simp at ran
      · exact ⟨nodes, Except.ok.inj (Job.trace_done.mp ran).2⟩

theorem work_leaves (ran : (work engine task medium).Trace t (task', stage)) :
    LeavesImages engine task.id stage := by
  cases works_of_trace ran with
  | unmade e => trivial
  | message origin carrying => trivial
  | article origin opening =>
    obtain ⟨-, ⟨e, rfl⟩ | ⟨fanout, images, rfl, collecting⟩⟩ := openArticle_trace opening
    · trivial
    · exact ⟨rfl, rfl, rfl, collect_images collecting⟩

theorem run_leaves (ran : (run engine task).Trace t (task', stage)) :
    LeavesImages engine task.id stage := by
  cases runs_of_trace ran with
  | canceled => trivial
  | unrouted resolving => trivial
  | @working _ _ route _ _ resolving working =>
    have id : (routed (prepared task) route).id = task.id := (keeps_prepared task).1
    rw [← id]
    exact work_leaves working

end Transfer

theorem Article.Image.hasSave_inCache (image : Image) (target : Target) :
    image.HasSave target (InCache target.links target.cacheDir target.task) where
  canceled := inCache_of_none rfl
  fetch := inCache_of_none rfl
  writeFile _ := inCache_below (.image image.number image.link) rfl
  save := inCache_below (.image image.number image.link) rfl
  dispose := inCache_below (.image image.number image.link) rfl

/-- Tasks of different ids share no cache file, and neither do two images of a page, whatever the
remote names and links are; a name is one segment, so that its file is right in the directory. All
files that a transfer works on by itself have such names of its task, and so have those of the images
that it leaves to be saved, which are the images of a page. The segments of a link have no slash. -/
theorem cache_names_apart (links : LinkReader) (whole : links.IsWhole) :
    (∀ id other a b, id ≠ other → IsCacheName links id a → IsCacheName links other b →
      a ≠ b ∧ ∀ (fs : FileTree) dir,
        fs.standing (Path.below dir a) ≠ fs.standing (Path.below dir b)) ∧
    (∀ (id : TaskId) nodes i j (hi : i < (imagesIn nodes).length) (hj : j < (imagesIn nodes).length),
      i ≠ j → cacheNameIn links id (imagesIn nodes)[i] ≠ cacheNameIn links id (imagesIn nodes)[j]) ∧
    (∀ id name, IsCacheName links id name → IsName name ∧ ∀ (fs : FileTree) dir,
      fs.standing (Path.below dir name) = fs.standing dir ++ [name.toList]) ∧
    (∀ engine task, engine.libraries.links = links →
      (Transfer.run engine task).Asks (InCache links engine.cacheDir task.id) ∧
      ∀ t task' stage, (Transfer.run engine task).Trace t (task', stage) →
        Transfer.LeavesImages engine task.id stage) ∧
    ∀ policy target (image : Image), target.links = links →
      (image.save policy target).Asks (InCache links target.cacheDir target.task) := by
  refine ⟨fun id other a b apart ha hb => ⟨ha.ne apart hb, fun fs dir same => ?_⟩,
    fun id nodes i j hi hj => cacheNameIn_ne links id hi hj,
    fun id name h => ⟨h.isName whole, fun fs dir => fs.standing_below dir (h.isName whole)⟩,
    fun engine task _ => ⟨Transfer.run_inCache engine task, fun t task' stage => Transfer.run_leaves⟩,
    fun policy target image reads =>
      reads ▸ image.save_asks (image.hasSave_inCache target) policy⟩
  exact ha.ne apart hb (fs.standing_below_injective dir (ha.isName whole) (hb.isName whole) same)

/-- A file that is called like an image of another task is kept apart from it. -/
theorem cache_names_apart_of_lookalike :
    Url.links.IsWhole ∧ cacheName 1 "2_1.jpg" ≠ imageCacheName 12 1 ".jpg" := by
  have extension : imageExtension Url.links "https://telegra.ph/file/1.jpg" = ".jpg" := by
    decide +kernel
  have image : IsCacheName Url.links 12 (imageCacheName 12 1 ".jpg") :=
    extension ▸ .image 1 "https://telegra.ph/file/1.jpg"
  exact ⟨Url.links_isWhole,
    ((cache_names_apart Url.links Url.links_isWhole).1 1 12 _ _ (by decide) (.message "2_1.jpg")
      image).1⟩

end Courier
