import Courier.Proofs.Article.Crowd
import Mathlib.Data.List.Nodup

/-! What holds at every time while the images of an article are saved. An image changes its own cache
file only, and its own entry, so that all the others see what they would see without it. -/
namespace Courier.Article

open FileTree (Spares Tended)

variable {env : Supply} {policy : RetryPolicy} {fanout : Nat} {target : Target} {tidy : Prop}
  {image other : Image} {s s' : Stock} {status status' : Status}

/-- What a storage holds of an image when it is saved. -/
def Image.entry (env : Supply) (target : Target) (image : Image) : Medium × String × Bytes :=
  (target.medium, image.remotePath target, env.bytes image.link)

/-- What becomes of the stock by the work on one image. -/
structure Touches (env : Supply) (target : Target) (image : Image) (s s' : Stock) : Prop where
  files : Spares (image.cachePath target) s.files s'.files
  stored : s'.stored = s.stored ∨ s'.stored = s.stored ++ [image.entry env target]
  handed : s'.handed = s.handed ∨
    env.prompt = false ∧ s'.handed = s.handed ++ [image.cachePath target]

namespace Touches

theorem refl (env : Supply) (target : Target) (image : Image) (s : Stock) :
    Touches env target image s s :=
  ⟨.refl _ _, .inl rfl, .inl rfl⟩

/-- No other image sees anything of it. -/
theorem view (touches : Touches env target image s s') (whole : target.links.IsWhole)
    (apart : other.number ≠ image.number) :
    other.view target s' = other.view target s := by
  have places : s.files.standing (other.cachePath target) ≠ s.files.standing (image.cachePath target) :=
    fun same => apart (Image.number_of_standing whole same)
  have caches : other.cachePath target ≠ image.cachePath target :=
    fun same => places (congrArg s.files.standing same)
  have paths : image.remotePath target ≠ other.remotePath target :=
    fun same => apart (Image.number_of_remotePath whole same).symm
  simp only [Image.view, View.mk.injEq]
  refine ⟨touches.files.fileAt places, ?_, ?_⟩
  · rcases touches.stored with same | more
    · rw [same]
    · simp [more, Image.entry, paths]
  · rcases touches.handed with same | ⟨-, more⟩
    · rw [same]
    · simp [more, caches]

theorem tended (touches : Touches env target image s s') (whole : target.links.IsWhole)
    (who : other = image ∨ other.number ≠ image.number)
    (readable : Tended (other.cachePath target) s.files) : Tended (other.cachePath target) s'.files := by
  rcases who with rfl | apart
  · exact readable.spares touches.files
  · exact readable.beside (touches.files.beside fun same => apart (Image.number_of_standing whole same))

end Touches

/-- An answer that the job of an image is given touches nothing else, and the job sees it as if it were
alone. -/
theorem answered_alone {r : Request} {reply : r.Reply}
    (allowed : image.may env target (image.view target s) r) (answered : env.answers s r reply s')
    (tended : tidy → Tended (image.cachePath target) s.files) :
    Touches env target image s s' ∧
      env.alone tidy (image.view target s) r reply (image.view target s') := by
  obtain ⟨-, allowed⟩ := allowed
  cases r with
  | canceled =>
    obtain ⟨rfl, -⟩ := answered
    exact ⟨.refl .., rfl⟩
  | image link =>
    obtain ⟨rfl, -, exact⟩ := answered
    obtain rfl : link = image.link := allowed
    rw [view_fetched target image s (s.fetched ++ [image.link])]
    exact ⟨⟨.refl _ _, .inl rfl, .inl rfl⟩, rfl, exact⟩
  | writeFile path content =>
    obtain ⟨files, rfl, spares, written⟩ := answered
    obtain rfl : path = image.cachePath target := allowed
    have kept (ok : reply = .ok ()) : files.fileAt (image.cachePath target) = some content :=
      FileTree.fileAt_of_read (written ok)
    rw [view_files target image s files]
    exact ⟨⟨spares, .inl rfl, .inl rfl⟩, rfl, rfl, kept⟩
  | save medium localPath path =>
    obtain ⟨rfl, fails⟩ := answered
    refine ⟨.refl .., rfl, rfl, ?_⟩
    cases reply with
    | ok => exact absurd rfl fails
    | error e => rfl
  | dispose path =>
    obtain rfl : path = image.cachePath target := allowed
    by_cases prompt : env.prompt = true
    · obtain rfl : s' = { s with files := Disk.discard s.files (image.cachePath target) } := by
        simpa [Supply.answers, prompt] using answered
      have gone (clean : tidy) : (Disk.discard s.files (image.cachePath target)).fileAt
          (image.cachePath target) = none := Disk.fileAt_discard (tended clean)
      rw [view_files target image s (Disk.discard s.files (image.cachePath target))]
      exact ⟨⟨Disk.spares_discard _ _, .inl rfl, .inl rfl⟩, rfl, fun clean _ => gone clean⟩
    · obtain rfl : s' = { s with handed := s.handed ++ [image.cachePath target] } := by
        simpa [Supply.answers, prompt] using answered
      rw [view_handed target image s]
      exact ⟨⟨.refl _ _, .inl rfl, .inr ⟨Bool.eq_false_iff.mpr prompt, rfl⟩⟩, rfl,
        fun _ removed => absurd removed prompt⟩
  | _ => exact allowed.elim

/-- What can be said of an image by how far it has come. -/
def Status.Sound (env : Supply) (target : Target) (tidy : Prop) (image : Image) (v : View) :
    Status → Prop
  | .waiting => v.Unsaved ∧ (tidy → v.cached = none)
  | .running job read => job.Meets (env.alone tidy) (image.may env target) (image.Right env tidy) v ∧
      ∀ content ∈ read, content = env.bytes image.link
  | .saved => image.Right env tidy v (.ok ())

theorem Move.sound (moved : Move env policy target image s status s' status')
    (sound : status.Sound env target tidy image (image.view target s))
    (tended : tidy → Tended (image.cachePath target) s.files) :
    Touches env target image s s' ∧ status'.Sound env target tidy image (image.view target s') := by
  cases moved with
  | begin => exact ⟨.refl .., save_meets env target tidy policy image sound.1, by simp⟩
  | answer reply answered =>
    obtain ⟨touches, alone⟩ := answered_alone sound.1.1 answered tended
    exact ⟨touches, sound.1.2 reply _ alone, by simp⟩
  | pickUp found =>
    obtain ⟨⟨-, -, rfl, -, cached⟩, -⟩ := sound.1
    refine ⟨.refl .., sound.1, fun content same => ?_⟩
    obtain rfl := Option.some.inj same
    rw [view_cached, FileTree.fileAt_of_read found] at cached
    exact Option.some.inj cached
  | putDown =>
    obtain ⟨⟨⟨-, rfl, rfl, rfl, cached⟩, next⟩, exact⟩ := sound
    obtain rfl := exact _ rfl
    rw [view_stored target image s _]
    exact ⟨⟨.refl _ _, .inr rfl, .inl rfl⟩, next (.ok ()) _ ⟨rfl, rfl, _, cached, rfl⟩, by simp⟩
  | finish => exact ⟨.refl .., sound.1⟩

theorem Status.Sound.expire {v : View} (sound : status.Sound env target tidy image v)
    (given : v.given = true) (keeps : env.prompt = false) (cached : Option Bytes) :
    status.Sound env target tidy image { v with cached } := by
  have late (removed : env.prompt = true) : cached = none := by simp [keeps] at removed
  cases status with
  | waiting => exact absurd (given.symm.trans sound.1.2) (by decide)
  | running job read =>
    refine ⟨?_, sound.2⟩
    cases job with
    | done result => exact ⟨sound.1.1, fun _ => late⟩
    | ask r next => exact absurd (given.symm.trans sound.1.1.1) (by decide)
  | saved => exact ⟨sound.1, fun _ => late⟩

/-- What holds of the images of an article while they are saved. -/
structure Orderly (env : Supply) (fanout : Nat) (target : Target) (tidy : Prop) (images : List Image)
    (c : Crowd) : Prop where
  who : c.parts.map (·.1) = images
  room : c.parts.countP (·.2.isRunning) ≤ max fanout 1
  sound : ∀ p ∈ c.parts, p.2.Sound env target tidy p.1 (p.1.view target c.stock)
  stored : ∀ e ∈ c.stock.stored, ∃ image ∈ images, e = image.entry env target
  tended : tidy → ∀ image ∈ images, Tended (image.cachePath target) c.stock.files
  handed : ∀ path ∈ c.stock.handed, env.prompt = false ∧ ∃ image ∈ images, path = image.cachePath target

namespace Orderly

variable {images : List Image} {c c' : Crowd} {before after : List (Image × Status)}

theorem start {files : FileTree}
    (clean : tidy → ∀ image ∈ images, files.fileAt (image.cachePath target) = none) :
    Orderly env fanout target tidy images (.start images (.start files)) where
  who := by simp [Crowd.start, Function.comp_def]
  room := by
    rw [List.countP_eq_zero.mpr]
    · exact Nat.zero_le _
    · intro p mem
      obtain ⟨image, -, rfl⟩ := List.mem_map.mp mem
      simp [Status.isRunning]
  sound := by
    intro p mem
    obtain ⟨image, has, rfl⟩ := List.mem_map.mp mem
    refine ⟨⟨rfl, rfl⟩, fun is => ?_⟩
    rw [view_cached]
    exact clean is image has
  stored := by simp [Crowd.start, Stock.start]
  tended is image mem := FileTree.tended_of_none (clean is image mem)
  handed := by simp [Crowd.start, Stock.start]

/-- The work on one image keeps everything in order if the image itself is. -/
theorem touch (orderly : Orderly env fanout target tidy images ⟨before ++ (image, status) :: after, s⟩)
    (whole : target.links.IsWhole) (distinct : (images.map (·.number)).Nodup)
    (touches : Touches env target image s s')
    (sound : status'.Sound env target tidy image (image.view target s'))
    (room : (before ++ (image, status') :: after).countP (·.2.isRunning) ≤ max fanout 1) :
    Orderly env fanout target tidy images ⟨before ++ (image, status') :: after, s'⟩ := by
  have mem : image ∈ images := by simp [← orderly.who]
  have who (other : Image) (has : other ∈ images) : other = image ∨ other.number ≠ image.number := by
    by_cases same : other.number = image.number
    · exact .inl (List.inj_on_of_nodup_map distinct has mem same)
    · exact .inr same
  refine ⟨?_, room, ?_, ?_, ?_, ?_⟩
  · rw [← orderly.who]
    simp
  · intro p hp
    have numbers : (before ++ (image, status) :: after).Pairwise fun p q => p.1.number ≠ q.1.number := by
      rw [← orderly.who, List.map_map] at distinct
      exact List.pairwise_map.mp distinct
    rcases List.mem_append.mp hp with hb | ha
    · rw [touches.view whole ((List.pairwise_append.mp numbers).2.2 p hb _ List.mem_cons_self)]
      exact orderly.sound p (List.mem_append_left _ hb)
    · rcases List.mem_cons.mp ha with rfl | ha
      · exact sound
      · have later := (List.pairwise_cons.mp (List.pairwise_append.mp numbers).2.1).1 p ha
        rw [touches.view whole later.symm]
        exact orderly.sound p (List.mem_append_right _ (List.mem_cons_of_mem _ ha))
  · intro e he
    rcases touches.stored with same | more
    · exact orderly.stored e (same ▸ he)
    · rcases List.mem_append.mp (more ▸ he) with old | new
      · exact orderly.stored e old
      · exact ⟨image, mem, List.mem_singleton.mp new⟩
  · exact fun is other has => touches.tended whole (who other has) (orderly.tended is other has)
  · intro path given
    rcases touches.handed with same | ⟨keeps, more⟩
    · exact orderly.handed path (same ▸ given)
    · rcases List.mem_append.mp (more ▸ given) with old | new
      · exact orderly.handed path old
      · exact ⟨keeps, image, mem, List.mem_singleton.mp new⟩

theorem room_of_move (moved : Move env policy target image s status s' status')
    (inTurn : status = .waiting → (before ++ after).countP (·.2.isRunning) < max fanout 1)
    (room : (before ++ (image, status) :: after).countP (·.2.isRunning) ≤ max fanout 1) :
    (before ++ (image, status') :: after).countP (·.2.isRunning) ≤ max fanout 1 := by
  have one (status : Status) : (before ++ (image, status) :: after).countP (·.2.isRunning) =
      (before ++ after).countP (·.2.isRunning) + if status.isRunning then 1 else 0 := by
    simp only [List.countP_append, List.countP_cons]
    omega
  rw [one] at room ⊢
  cases moved with
  | begin => exact inTurn rfl
  | finish => exact Nat.le_trans (Nat.le_add_right _ _) room
  | _ => exact room

theorem step (orderly : Orderly env fanout target tidy images c) (whole : target.links.IsWhole)
    (distinct : (images.map (·.number)).Nodup) (stepped : Step env policy fanout target c c') :
    Orderly env fanout target tidy images c' := by
  cases stepped with
  | @move before after image status status' s s' moved inTurn =>
    have here : (image, status) ∈ before ++ (image, status) :: after := by simp
    have mem : image ∈ images := by simp [← orderly.who]
    obtain ⟨touches, sound⟩ := moved.sound (orderly.sound _ here) fun is => orderly.tended is image mem
    exact orderly.touch whole distinct touches sound
      (room_of_move moved (fun waiting => (inTurn waiting).2) orderly.room)
  | @expire parts s path given =>
    obtain ⟨keeps, image, mem, rfl⟩ := orderly.handed path given
    obtain ⟨⟨image, status⟩, here, rfl⟩ := List.mem_map.mp (orderly.who ▸ mem)
    obtain ⟨before, after, rfl⟩ := List.append_of_mem here
    have sound := orderly.sound _ here
    have known : (image.view target s).given = true := by simpa [Image.view] using given
    exact orderly.touch whole distinct ⟨Disk.spares_discard _ _, .inl rfl, .inl rfl⟩
      (sound.expire known keeps _) orderly.room

theorem run (orderly : Orderly env fanout target tidy images c) (whole : target.links.IsWhole)
    (distinct : (images.map (·.number)).Nodup)
    (steps : Relation.ReflTransGen (Step env policy fanout target) c c') :
    Orderly env fanout target tidy images c' := by
  induction steps with
  | refl => exact orderly
  | tail _ stepped ih => exact ih.step whole distinct stepped

end Orderly

end Courier.Article
