import Courier.Proofs.Article.Saving

/-! The cache files that the download of an article leaves behind. An image gives up its file at the end
of its own job; the images that are dropped for the failure of another one never come that far. -/
namespace Courier.Article

open FileTree (Spares)
open Relation (ReflTransGen)

variable {env : Supply} {policy : RetryPolicy} {fanout : Nat} {target : Target} {tidy : Prop}
  {link : Link} {slug : String} {files : FileTree} {result : Except TransferError Nat} {s s' : Stock}
  {images : List Image} {parts : List (Image × Status)} {image : Image} {status : Status}

theorem Status.Sound.worksOn {v : View} {path : String}
    (sound : status.Sound env target tidy image v) (works : status.WorksOn path) :
    path = image.cachePath target := by
  rcases status with _ | ⟨_ | ⟨r, next⟩, read⟩ | _
  · exact works.elim
  · exact works.elim
  · have allowed := sound.1.1.2
    cases r with
    | writeFile other content => exact (show other = path from works) ▸ allowed
    | dispose other => exact (show other = path from works) ▸ allowed
    | _ => exact works.elim
  · exact works.elim

/-- The file of an image that has nothing under way is left alone to the end. -/
theorem Orderly.late (orderly : Orderly env fanout target tidy images ⟨parts, s⟩)
    (whole : target.links.IsWhole) (distinct : (images.map (·.number)).Nodup)
    (late : Late parts s.files files)
    (has : (image, status) ∈ parts) (rests : ∀ path, ¬ status.WorksOn path) :
    files.fileAt (image.cachePath target) = s.files.fileAt (image.cachePath target) := by
  have once : (parts.map (·.1.number)).Nodup := by
    rw [← orderly.who, List.map_map] at distinct
    exact distinct
  induction late with
  | refl => rfl
  | tail _ work ih =>
    obtain ⟨p, mem, path, works, spares⟩ := work
    obtain rfl := (orderly.sound p mem).worksOn works
    refine (spares.fileAt fun same => ?_).trans ih
    have same_part := List.inj_on_of_nodup_map once has mem (Image.number_of_standing whole same)
    exact rests _ (same_part ▸ works)

/-- When the images have ended, the file of an image is gone unless another one has failed while it was
under way. -/
theorem Orderly.gone {c : Crowd} {outcome : Except TransferError Unit}
    (orderly : Orderly env fanout target True images c) (whole : target.links.IsWhole)
    (prompt : env.prompt = true) (distinct : (images.map (·.number)).Nodup) (ends : Ends c outcome s') :
    ∃ dropped : List Image, dropped.Sublist images ∧ dropped.length < max fanout 1 ∧
      (outcome = .ok () → dropped = []) ∧
      ∀ image ∈ images, image ∉ dropped → s'.files.fileAt (image.cachePath target) = none := by
  cases ends with
  | @all parts _ saved =>
    refine ⟨[], List.nil_sublist _, Nat.le_max_right _ _, fun _ => rfl, fun image mem _ => ?_⟩
    obtain ⟨p, has, rfl⟩ := List.mem_map.mp (orderly.who ▸ mem)
    have right := orderly.sound p has
    rw [saved p has] at right
    exact right.2 trivial prompt
  | @failed parts s failing e read files has late =>
    obtain ⟨before, after, rfl⟩ := List.append_of_mem has
    refine ⟨((before ++ after).filter (·.2.isRunning)).map (·.1), ?_, ?_, nofun, ?_⟩
    · rw [← orderly.who]
      refine (List.filter_sublist.trans ?_).map _
      exact (List.Sublist.refl before).append (List.sublist_cons_self _ after)
    · have room := orderly.room
      rw [List.length_map, ← List.countP_eq_length_filter]
      simp only [List.countP_append, List.countP_cons, Status.isRunning, if_true] at room ⊢
      omega
    · intro image mem kept
      obtain ⟨⟨image, status⟩, at_end, rfl⟩ := List.mem_map.mp (orderly.who ▸ mem)
      have sound := orderly.sound _ at_end
      cases status with
      | waiting => exact (orderly.late whole distinct late at_end fun _ => id).trans (sound.2 trivial)
      | saved => exact (orderly.late whole distinct late at_end fun _ => id).trans (sound.2 trivial prompt)
      | running job read' =>
        have others : (image, Status.running job read') ∉ before ++ after := fun other =>
          kept (List.mem_map_of_mem (List.mem_filter.mpr ⟨other, rfl⟩))
        rw [List.mem_append, not_or] at others
        obtain (here | there) := List.mem_append.mp at_end
        · exact absurd here others.1
        · obtain (same | there) := List.mem_cons.mp there
          · obtain ⟨rfl, status_eq⟩ := Prod.mk.inj same
            obtain ⟨rfl, -⟩ := Status.running.inj status_eq
            exact (orderly.late whole distinct late at_end fun _ => id).trans (sound.1.2 trivial prompt)
          · exact absurd there others.2

/-- The download of an article leaves no cache file behind if its images are saved, or if they are saved
one at a time. Otherwise it leaves at most those of the images that were under way when one failed. -/
theorem download_leaves_dropped_images (whole : target.links.IsWhole)
    (slugged : pageSlug link = some slug) (prompt : env.prompt = true)
    (clean : ∀ image ∈ imagesIn (env.page slug), files.fileAt (image.cachePath target) = none)
    (run : Downloads env policy fanout target link files result s') :
    ∃ dropped : List Image, dropped.Sublist (imagesIn (env.page slug)) ∧
      dropped.length < max fanout 1 ∧ (∀ count, result = .ok count → dropped = []) ∧
      ∀ image ∈ imagesIn (env.page slug), image ∉ dropped →
        s'.files.fileAt (image.cachePath target) = none := by
  rcases run.cases slugged with ⟨e, rfl, rfl, -⟩ | ⟨-, c, outcome, steps, ends, rfl⟩
  · exact ⟨[], List.nil_sublist _, Nat.le_max_right _ _, fun _ _ => rfl,
      fun image mem _ => clean image mem⟩
  · have orderly : Orderly env fanout target True (imagesIn (env.page slug)) c :=
      (Orderly.start fun _ => clean).run whole (numbers_nodup _) steps
    obtain ⟨dropped, within, few, none, gone⟩ := orderly.gone whole prompt (numbers_nodup _) ends
    refine ⟨dropped, within, few, fun count ok => none ?_, gone⟩
    cases outcome with
    | ok => rfl
    | error e => contradiction

/-- Two images that are both saved leave nothing behind. -/
theorem download_leaves_nothing_of_two :
    ∃ s', Downloads twoPictures .none 2 trip tripPage cacheFolder (.ok 2) s' ∧
      ∀ image ∈ [firstPicture, secondPicture], s'.files.fileAt (image.cachePath trip) = none := by
  have slugged : pageSlug tripPage = some "Trip" := by decide +kernel
  have images : imagesIn (twoPictures.page "Trip") = [firstPicture, secondPicture] := by decide +kernel
  obtain ⟨s', run⟩ := download_can_succeed slugged (by simp [images]) (images ▸ picture_leads)
  rw [images] at run
  have clean : ∀ image ∈ imagesIn (twoPictures.page "Trip"),
      cacheFolder.fileAt (image.cachePath trip) = none := by
    rw [images]
    decide +kernel
  obtain ⟨dropped, -, -, none, gone⟩ := download_leaves_dropped_images Url.links_isWhole slugged rfl clean run
  rw [none 2 rfl, images] at gone
  exact ⟨s', run, fun image mem => gone image mem List.not_mem_nil⟩

/-- The file of an image that has been written stays when another image fails. -/
theorem download_leaves_second_picture :
    ∃ s', Downloads twoPictures .none 2 trip tripPage cacheFolder
        (.error (.article (.imageFailed 1 firstPicture.link 1 (.network "down")))) s' ∧
      (∀ image ∈ imagesIn (twoPictures.page "Trip"),
        cacheFolder.fileAt (image.cachePath trip) = none) ∧
      s'.files.fileAt (secondPicture.cachePath trip) = some ⟨#[2]⟩ := by
  have slugged : pageSlug tripPage = some "Trip" := by decide +kernel
  have images : imagesIn (twoPictures.page "Trip") = [firstPicture, secondPicture] := by decide +kernel
  obtain ⟨place, leads⟩ := picture_leads secondPicture (by simp)
  let start : Stock := .start cacheFolder
  have first_begins : Step twoPictures .none 2 trip (.start (imagesIn (twoPictures.page "Trip")) start)
      ⟨[] ++ (firstPicture, .running (firstPicture.save .none trip) none) ::
        [(secondPicture, .waiting)], start⟩ := by
    rw [images, show Crowd.start [firstPicture, secondPicture] start =
      ⟨[] ++ (firstPicture, .waiting) :: [(secondPicture, .waiting)], start⟩ from rfl]
    exact .move .begin fun _ => ⟨nofun, by decide⟩
  have second_is_written : (start.written twoPictures secondPicture place).files.read
        (secondPicture.cachePath trip) = .ok ⟨#[2]⟩ ∧
      ∃ job read, ReflTransGen (Step twoPictures .none 2 trip)
          ⟨[(firstPicture, .running (firstPicture.save .none trip) none)] ++
            (secondPicture, .waiting) :: [], start⟩
          ⟨[] ++ (firstPicture, .running (firstPicture.save .none trip) none) ::
            [(secondPicture, .running job read)], start.written twoPictures secondPicture place⟩ ∧ _ :=
    writes_next leads (by simp) (by decide)
  obtain ⟨reads, job, read, second_written, -⟩ := second_is_written
  obtain ⟨c, s', steps, ends, files⟩ := fails_next (.head first_begins second_written)
    (e := .network "down") rfl rfl
  have run := downloads_of_ends slugged (by simp [images]) steps ends
  refine ⟨s', run, ?_, ?_⟩
  · rw [images]
    decide +kernel
  · -- Giving up the file of the first image, which was never there, spares that of the second.
    have apart : (start.written twoPictures secondPicture place).files.standing
          (secondPicture.cachePath trip) ≠
        (start.written twoPictures secondPicture place).files.standing
          (firstPicture.cachePath trip) := fun same => by
      simpa [firstPicture, secondPicture] using Image.number_of_standing Url.links_isWhole same
    rw [files, (Disk.spares_discard _ _).fileAt apart]
    exact FileTree.fileAt_of_read reads

end Courier.Article
