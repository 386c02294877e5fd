import Courier.Proofs.Article.Progress

/-! What the download of an article comes to. Its images are saved below the article's path, each under
its number in document order and with its own bytes, whatever order the work on them goes in. -/
namespace Courier.Article

open Courier.Path (IsName)
open Relation (ReflTransGen)

variable {env : Supply} {policy : RetryPolicy} {fanout : Nat} {target : Target} {tidy : Prop}
  {link : Link} {slug : String} {files : FileTree} {result : Except TransferError Nat} {s s' : Stock}
  {images : List Image} {c : Crowd}

/-- The page is looked at without touching anything. It gives the images of the page, or there is an
error: of the article, or for a cancellation. -/
theorem collect_trace {t : List Exchange} {collected : Except TransferError (List Image)}
    (slugged : pageSlug link = some slug) (trace : (collect link).Trace t collected)
    (follows : Answering.Follows env.answers s t s') :
    s' = s ∧ ((imagesIn (env.page slug) ≠ [] ∧ collected = .ok (imagesIn (env.page slug))) ∨
      (∃ e, collected = .error (.article e)) ∨
      env.cancelable = true ∧ collected = .error .canceled) := by
  simp only [collect, slugged, Job.request, Job.bind_eq, Job.pure_eq, Job.ask_bind, Job.done_bind,
    Job.trace_ask] at trace
  obtain ⟨reply, rest, rfl, trace⟩ := trace
  obtain ⟨m, ⟨rfl, canceled, exact⟩, follows⟩ := follows
  rcases reply with _ | e | nodes
  · obtain ⟨rfl, rfl⟩ := Job.trace_done.mp trace
    exact ⟨follows, .inr (.inr ⟨canceled rfl, rfl⟩)⟩
  · obtain ⟨rfl, rfl⟩ := Job.trace_done.mp trace
    exact ⟨follows, .inr (.inl ⟨_, rfl⟩)⟩
  · obtain rfl : nodes = env.page slug := exact nodes rfl
    dsimp only at trace
    split at trace
    · obtain ⟨rfl, rfl⟩ := Job.trace_done.mp trace
      exact ⟨follows, .inr (.inl ⟨_, rfl⟩)⟩
    · next some =>
      obtain ⟨rfl, rfl⟩ := Job.trace_done.mp trace
      exact ⟨follows, .inl ⟨fun none => some (List.isEmpty_iff.mpr none), rfl⟩⟩

/-- A download ends before the first image, or with the images of the page. -/
theorem Downloads.cases (slugged : pageSlug link = some slug)
    (run : Downloads env policy fanout target link files result s') :
    (∃ e, result = .error e ∧ s' = .start files ∧
      ((∃ a, e = .article a) ∨ env.cancelable = true ∧ e = .canceled)) ∨
    imagesIn (env.page slug) ≠ [] ∧ ∃ c outcome,
      ReflTransGen (Step env policy fanout target) (.start (imagesIn (env.page slug)) (.start files)) c ∧
      Ends c outcome s' ∧ result = outcome.map fun _ => (imagesIn (env.page slug)).length := by
  obtain ⟨t, collected, s, trace, follows, rest⟩ := run
  obtain ⟨rfl, ⟨some, rfl⟩ | ⟨e, rfl⟩ | ⟨canceled, rfl⟩⟩ := collect_trace slugged trace follows
  · exact .inr ⟨some, rest⟩
  · exact .inl ⟨_, rest.1, rest.2, .inl ⟨e, rfl⟩⟩
  · exact .inl ⟨_, rest.1, rest.2, .inr ⟨canceled, rfl⟩⟩

theorem mem_view_stored {image : Image} {content : Bytes} : content ∈ (image.view target s).stored ↔
    (target.medium, image.remotePath target, content) ∈ s.stored := by
  simp [Image.view, and_assoc]

/-- An end that is good is one with all images saved; else the image that failed is not saved. -/
theorem Orderly.ends (orderly : Orderly env fanout target tidy images c)
    {outcome : Except TransferError Unit} (ends : Ends c outcome s') :
    s'.stored = c.stock.stored ∧
      (outcome = .ok () ↔ ∀ image ∈ images, image.entry env target ∈ c.stock.stored) := by
  cases ends with
  | @all parts _ saved =>
    refine ⟨rfl, fun _ image mem => ?_, fun _ => rfl⟩
    obtain ⟨p, has, rfl⟩ := List.mem_map.mp (orderly.who ▸ mem)
    have right := orderly.sound p has
    rw [saved p has] at right
    have stored : (p.1.view target s').stored = [env.bytes p.1.link] := right.1
    exact mem_view_stored.mp (by rw [stored]; exact List.mem_singleton_self _)
  | @failed parts _ image e read files has late =>
    refine ⟨rfl, fun ok => by contradiction, fun all => ?_⟩
    have stored : (image.view target _).stored = [] := (orderly.sound _ has).1.1
    have mem : image ∈ images := orderly.who ▸ List.mem_map_of_mem has
    have saved := mem_view_stored.mpr (all image mem)
    rw [stored] at saved
    contradiction

/-- What is to be stored of a page: its images in document order, at whatever depth, each under its
number and with the extension of its link. -/
def Supply.entries (env : Supply) (target : Target) (nodes : List Node) :
    List (Medium × String × Bytes) :=
  (((walkAll nodes).filterMap Node.source?).map absoluteImage).mapIdx fun index link =>
    (target.medium,
      Path.join target.path (imageName (index + 1) (imageExtension target.links link)), env.bytes link)

theorem entries_eq (nodes : List Node) :
    env.entries target nodes = (imagesIn nodes).map (Image.entry env target) := by
  apply List.ext_getElem
  · simp [Supply.entries, imagesIn, imagesOf_eq]
  · intro i _ _
    simp [Supply.entries, imagesIn, imagesOf_eq, Image.entry, Image.remotePath, Image.extension]

theorem entries_nodup (whole : target.links.IsWhole) (nodes : List Node) :
    ((env.entries target nodes).map (·.2.1)).Nodup := by
  rw [entries_eq, List.map_map]
  have numbers := List.pairwise_map.mp (numbers_nodup nodes)
  exact List.pairwise_map.mpr
    (numbers.imp fun apart same => apart (Image.number_of_remotePath whole same))

theorem entries_below (whole : target.links.IsWhole) {nodes : List Node}
    {e : Medium × String × Bytes}
    (mem : e ∈ env.entries target nodes) :
    ∃ name, IsName name ∧ e.2.1 = Path.below (Path.join target.path "") name := by
  rw [entries_eq] at mem
  obtain ⟨image, -, rfl⟩ := List.mem_map.mp mem
  exact ⟨_, image.isName whole, (image.isName whole).join target.path⟩

/-- The images of a page are saved in document order and without mixing. Whatever is stored of them is an
entry of the page; the paths of these are all different children of the article's; and all goes well if
and only if there are images and every one of them is stored. -/
theorem download_saves_in_order (whole : target.links.IsWhole) (slugged : pageSlug link = some slug)
    (run : Downloads env policy fanout target link files result s') :
    let entries := env.entries target (env.page slug)
    (∀ e ∈ s'.stored, e ∈ entries) ∧
    (entries.map (·.2.1)).Nodup ∧
    (∀ e ∈ entries, ∃ name, IsName name ∧ e.2.1 = Path.below (Path.join target.path "") name) ∧
    (∀ count, result = .ok count ↔
      count = entries.length ∧ 1 ≤ entries.length ∧ ∀ e ∈ entries, e ∈ s'.stored) ∧
    (entries = [] → s'.stored = [] ∧ s'.fetched = [] ∧
      ((∃ e, result = .error (.article e)) ∨ env.cancelable = true ∧ result = .error .canceled)) := by
  intro entries
  have all : entries = (imagesIn (env.page slug)).map (Image.entry env target) := entries_eq _
  have count : entries.length = (imagesIn (env.page slug)).length := by rw [all, List.length_map]
  rcases run.cases slugged with ⟨e, rfl, rfl, why⟩ | ⟨some, c, outcome, steps, ends, rfl⟩
  · -- No image has been begun, and nothing is stored.
    refine ⟨fun e stored => absurd stored List.not_mem_nil, entries_nodup whole _,
      fun e => entries_below whole, fun n => ⟨fun ok => by contradiction, ?_⟩, fun _ => ⟨rfl, rfl, ?_⟩⟩
    · rintro ⟨-, positive, stored⟩
      obtain ⟨first, has⟩ := List.exists_mem_of_length_pos positive
      exact absurd (stored first has) List.not_mem_nil
    · rcases why with ⟨a, rfl⟩ | ⟨canceled, rfl⟩
      · exact .inl ⟨a, rfl⟩
      · exact .inr ⟨canceled, rfl⟩
  · have orderly : Orderly env fanout target False (imagesIn (env.page slug)) c :=
      (Orderly.start fun is => is.elim).run whole (numbers_nodup _) steps
    obtain ⟨stored, good⟩ := orderly.ends ends
    have positive : 1 ≤ (imagesIn (env.page slug)).length := List.length_pos_of_ne_nil some
    refine ⟨fun e mem => ?_, entries_nodup whole _, fun e => entries_below whole, fun n => ?_,
      fun none => ?_⟩
    · obtain ⟨image, has, rfl⟩ := orderly.stored e (stored ▸ mem)
      exact all ▸ List.mem_map_of_mem has
    · rw [count, stored, all, List.forall_mem_map, ← good]
      cases outcome with
      | ok => simp [Except.map, positive, eq_comm]
      | error e => simp [Except.map]
    · rw [none] at count
      exact absurd count.symm (Nat.ne_of_gt positive)

theorem download_saves_in_order_of_two :
    ∃ s', Downloads twoPictures .none 2 trip tripPage cacheFolder (.ok 2) s' ∧
      (.backend 0, "Trip/1.jpg", ⟨#[1]⟩) ∈ s'.stored ∧
      (.backend 0, "Trip/2.png", ⟨#[2]⟩) ∈ s'.stored := by
  have slugged : pageSlug tripPage = some "Trip" := by decide +kernel
  have images : imagesIn (twoPictures.page "Trip") = [firstPicture, secondPicture] := by decide +kernel
  obtain ⟨s', run⟩ := download_can_succeed slugged (by simp [images]) (images ▸ picture_leads)
  have entries : twoPictures.entries trip (twoPictures.page "Trip") =
      [(.backend 0, "Trip/1.jpg", ⟨#[1]⟩), (.backend 0, "Trip/2.png", ⟨#[2]⟩)] := by decide +kernel
  rw [images] at run
  obtain ⟨-, -, -, good, -⟩ := download_saves_in_order Url.links_isWhole slugged run
  obtain ⟨-, -, stored⟩ := (good 2).mp rfl
  rw [entries] at stored
  exact ⟨s', run, stored _ (by simp), stored _ (by simp)⟩

end Courier.Article
