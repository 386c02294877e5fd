import Courier.Proofs.Article.Orderly
import Courier.Proofs.Url.Segments

/-! The saving of images is never stuck. From wherever it is it can come to an end, and where files can be
written it can come to a good one. -/
namespace Courier.Article

open Relation (ReflTransGen)
open Job (Trace)

variable {env : Supply} {policy : RetryPolicy} {fanout : Nat} {target : Target} {image : Image}
  {before after : List (Image × Status)} {s s' : Stock}

/-- A save that comes through, if nothing comes in between. -/
def Stock.Saves (s : Stock) : (r : Request) → r.Reply → Stock → Prop
  | .save medium localPath path, reply, s' => reply = .ok () ∧ ∃ content,
      s.files.read localPath = .ok content ∧
        s' = { s with stored := s.stored ++ [(medium, path, content)] }
  | _, _, _ => False

/-- All that can be answered, saves that come through among it. -/
def Supply.does (env : Supply) : Answering Stock :=
  fun s r reply s' => env.answers s r reply s' ∨ s.Saves r reply s'

/-- The job of an image can go any part of its way while the others rest. -/
theorem steps_of_prefix {t₁ t₂ : List Exchange} {job : Job (Except TransferError Unit)}
    {read : Option Bytes} {result : Except TransferError Unit} (trace : job.Trace (t₁ ++ t₂) result)
    (follows : Answering.Follows env.does s t₁ s') :
    ∃ job' read', ReflTransGen (Step env policy fanout target)
      ⟨before ++ (image, .running job read) :: after, s⟩
      ⟨before ++ (image, .running job' read') :: after, s'⟩ ∧ job'.Trace t₂ result := by
  induction t₁ generalizing job read s with
  | nil =>
    rw [show s' = s from follows]
    exact ⟨job, read, .refl, trace⟩
  | cons exchange t₁ ih =>
    cases trace with
    | @ask r next _ _ reply rest =>
      obtain ⟨m, answered | saved, follows⟩ := follows
      · obtain ⟨job', read', steps, left⟩ := ih rest follows
        exact ⟨job', read', .head (.move (.answer reply answered) nofun) steps, left⟩
      · cases r with
        | save medium localPath path =>
          obtain ⟨rfl, content, found, rfl⟩ := saved
          obtain ⟨job', read', steps, left⟩ := ih rest follows
          exact ⟨job', read',
            .head (.move (.pickUp found) nofun) (.head (.move .putDown nofun) steps), left⟩
        | _ => exact saved.elim

theorem steps_of_trace {t : List Exchange} {job : Job (Except TransferError Unit)} {read : Option Bytes}
    {result : Except TransferError Unit} (trace : job.Trace t result)
    (follows : Answering.Follows env.does s t s') :
    ∃ read', ReflTransGen (Step env policy fanout target)
      ⟨before ++ (image, .running job read) :: after, s⟩
      ⟨before ++ (image, .running (.done result) read') :: after, s'⟩ := by
  rw [← List.append_nil t] at trace
  obtain ⟨job', read', steps, ended⟩ := steps_of_prefix trace follows
  cases ended
  exact ⟨read', steps⟩

theorem answers_total (env : Supply) (s : Stock) (r : Request) :
    ∃ reply s', env.answers s r reply s' := by
  cases r with
  | canceled => exact ⟨false, s, rfl, by simp⟩
  | page slug => exact ⟨some (.error .canceled), s, rfl, by simp, by simp⟩
  | image link => exact ⟨some (.error .canceled), _, rfl, by simp, by simp⟩
  | writeFile path content => exact ⟨.error .noEntry, s, s.files, rfl, .refl _ _, by simp⟩
  | save medium localPath path => exact ⟨.error .canceled, s, rfl, by simp⟩
  | _ => exact ⟨Request.someReply _, _, rfl⟩

theorem runs_out (job : Job (Except TransferError Unit)) (read : Option Bytes) :
    ∃ s', ReflTransGen (Step env policy fanout target) ⟨before ++ (image, .running job read) :: after, s⟩
        ⟨before ++ (image, .saved) :: after, s'⟩ ∨
      ∃ c e, ReflTransGen (Step env policy fanout target)
        ⟨before ++ (image, .running job read) :: after, s⟩ c ∧ Ends c (.error e) s' := by
  have total (s : Stock) (r : Request) : ∃ reply s', env.does s r reply s' := by
    obtain ⟨reply, s', answered⟩ := answers_total env s r
    exact ⟨reply, s', .inl answered⟩
  obtain ⟨t, result, s', trace, follows⟩ := Job.exists_trace total job s
  obtain ⟨read', steps⟩ := steps_of_trace trace follows
  refine ⟨s', ?_⟩
  cases result with
  | ok => exact .inl (steps.tail (.move .finish nofun))
  | error e => exact .inr ⟨_, e, steps, .failed (List.mem_append_right _ List.mem_cons_self) .refl⟩

def Status.isWaiting : Status → Bool
  | waiting => true
  | _ => false

def Status.isSaved : Status → Bool
  | saved => true
  | _ => false

/-- All images are saved, or one is under way, or else one can be begun. -/
theorem saved_or_goes_on (parts : List (Image × Status)) : (∀ p ∈ parts, p.2 = .saved) ∨
    ∃ before image after,
      (∃ job read, parts = before ++ (image, .running job read) :: after) ∨
      parts = before ++ (image, .waiting) :: after ∧ (∀ p ∈ before, p.2 ≠ .waiting) ∧
        (before ++ after).countP (·.2.isRunning) = 0 := by
  rcases running : parts.find? (·.2.isRunning) with _ | ⟨image, status⟩
  · have idle := List.find?_eq_none.mp running
    rcases waiting : parts.find? (·.2.isWaiting) with _ | ⟨image, status⟩
    · refine .inl fun p mem => ?_
      have begun := List.find?_eq_none.mp waiting p mem
      rcases p with ⟨image, _ | _ | _⟩
      · exact absurd rfl begun
      · exact absurd rfl (idle _ mem)
      · rfl
    · obtain ⟨waits, before, after, rfl, first⟩ := List.find?_eq_some_iff_append.mp waiting
      cases status with
      | waiting =>
        refine .inr ⟨before, image, after, .inr ⟨rfl, fun p mem waits => ?_, ?_⟩⟩
        · simpa [waits, Status.isWaiting] using first p mem
        · refine List.countP_eq_zero.mpr fun p mem => idle p ?_
          exact List.mem_append.mpr ((List.mem_append.mp mem).imp_right (List.mem_cons_of_mem _))
      | _ => contradiction
  · obtain ⟨runs, before, after, rfl, -⟩ := List.find?_eq_some_iff_append.mp running
    cases status with
    | running job read => exact .inr ⟨before, image, after, .inl ⟨job, read, rfl⟩⟩
    | _ => contradiction

theorem comes_to_end (c : Crowd) :
    ∃ c' outcome s', ReflTransGen (Step env policy fanout target) c c' ∧ Ends c' outcome s' := by
  -- The induction is on the images that are not saved. One of them is under way or can be begun.
  induction left : c.parts.countP (!·.2.isSaved) using Nat.strongRecOn generalizing c with
  | _ n ih =>
  obtain ⟨parts, s⟩ := c
  have goesOn (before after : List (Image × Status)) (image : Image)
      (job : Job (Except TransferError Unit)) (read : Option Bytes)
      (n_eq : (before ++ after).countP (!·.2.isSaved) < n)
      (steps : ReflTransGen (Step env policy fanout target) ⟨parts, s⟩
        ⟨before ++ (image, .running job read) :: after, s⟩) :
      ∃ c' outcome s',
        ReflTransGen (Step env policy fanout target) ⟨parts, s⟩ c' ∧ Ends c' outcome s' := by
    obtain ⟨s', more | ⟨c, e, more, ends⟩⟩ := runs_out job read
    · have fewer : (before ++ (image, Status.saved) :: after).countP (!·.2.isSaved) < n := by
        simpa [Status.isSaved] using n_eq
      obtain ⟨c', outcome, s', rest, ends⟩ := ih _ fewer ⟨_, s'⟩ rfl
      exact ⟨c', outcome, s', steps.trans (more.trans rest), ends⟩
    · exact ⟨c, _, s', steps.trans more, ends⟩
  have fewer {before after : List (Image × Status)} {p : Image × Status}
      (parts_eq : parts = before ++ p :: after) (unsaved : p.2.isSaved = false) :
      (before ++ after).countP (!·.2.isSaved) < n := by
    rw [← left, parts_eq]
    simp [unsaved]
  obtain saved | ⟨before, image, after, ⟨job, read, rfl⟩ | ⟨rfl, first, idle⟩⟩ := saved_or_goes_on parts
  · exact ⟨_, _, s, .refl, .all saved⟩
  · exact goesOn before after image job read (fewer rfl rfl) .refl
  · have room : (before ++ after).countP (·.2.isRunning) < max fanout 1 :=
      idle ▸ Nat.le_max_right _ _
    exact goesOn before after image _ none (fewer rfl rfl)
      (.single (.move .begin fun _ => ⟨first, room⟩))

/-- A download can come to an end whatever page it is of. -/
theorem download_can_end (env : Supply) (policy : RetryPolicy) (fanout : Nat) (target : Target)
    (link : Link) (files : FileTree) :
    ∃ result s', Downloads env policy fanout target link files result s' := by
  obtain ⟨t, collected, s, trace, follows⟩ :=
    Job.exists_trace (answers_total env) (collect link) (.start files)
  cases collected with
  | error e => exact ⟨.error e, s, t, _, s, trace, follows, rfl, rfl⟩
  | ok images =>
    obtain ⟨c, outcome, s', steps, ends⟩ := comes_to_end (.start images s)
    exact ⟨_, s', t, _, s, trace, follows, c, outcome, steps, ends, rfl⟩

section Success

theorem save_trace (policy : RetryPolicy) (target : Target) (image : Image) (bytes : Bytes) :
    (image.save policy target).Trace
      [⟨.canceled, false⟩, ⟨.image image.link, some (Except.ok bytes)⟩,
        ⟨.writeFile (image.cachePath target) bytes, Except.ok ()⟩,
        ⟨.save target.medium (image.cachePath target) (image.remotePath target), Except.ok ()⟩,
        ⟨.dispose (image.cachePath target), ()⟩] (.ok ()) := by
  unfold Image.save withRetry
  generalize policy.attempts - 1 = spare
  cases spare <;>
  · refine .ask (r := .canceled) false ?_
    refine .ask (r := .image _) (some (Except.ok bytes)) ?_
    refine .ask (r := .writeFile _ _) (Except.ok ()) ?_
    refine .ask (r := .save _ _ _) (Except.ok ()) ?_
    exact .ask (r := .dispose _) () (.done _)

theorem unfetched_trace (target : Target) (image : Image) (e : CallError) :
    (image.save .none target).Trace
      [⟨.canceled, false⟩, ⟨.image image.link, some (Except.error e)⟩,
        ⟨.dispose (image.cachePath target), ()⟩]
      (image.outcome (.error (.exhausted 1 e))) := by
  refine .ask (r := .canceled) false ?_
  refine .ask (r := .image _) (some (Except.error e)) ?_
  exact .ask (r := .dispose _) () (.done _)

/-- What there is when the file of an image has been written at its place. -/
def Stock.written (env : Supply) (image : Image) (place : Place) (s : Stock) : Stock :=
  { s with files := s.files.put place (.file (env.bytes image.link)),
           fetched := s.fetched ++ [image.link] }

theorem writes_next {place : Place} (leads : s.files.LeadsTo (image.cachePath target) place)
    (first : ∀ p ∈ before, p.2 ≠ .waiting)
    (room : (before ++ after).countP (·.2.isRunning) < max fanout 1) :
    (s.written env image place).files.read (image.cachePath target) = .ok (env.bytes image.link) ∧
      ∃ job read, ReflTransGen (Step env policy fanout target)
          ⟨before ++ (image, .waiting) :: after, s⟩
          ⟨before ++ (image, .running job read) :: after, s.written env image place⟩ ∧
        job.Trace [⟨.save target.medium (image.cachePath target) (image.remotePath target), Except.ok ()⟩,
          ⟨.dispose (image.cachePath target), ()⟩] (.ok ()) := by
  have reads : (s.written env image place).files.read (image.cachePath target) =
      .ok (env.bytes image.link) := FileTree.read_eq_ok.mpr ⟨place, leads.lookup_put _⟩
  have follows : Answering.Follows env.does s
      [⟨.canceled, false⟩, ⟨.image image.link, some (Except.ok (env.bytes image.link))⟩,
        ⟨.writeFile (image.cachePath target) (env.bytes image.link), Except.ok ()⟩]
      (s.written env image place) := by
    refine ⟨s, .inl ⟨rfl, by simp⟩, _, .inl ⟨rfl, by simp, fun bytes same => ?_⟩, _,
      .inl ⟨_, rfl, leads.spares_put _, fun _ => reads⟩, rfl⟩
    exact (Except.ok.inj (Option.some.inj same)).symm
  obtain ⟨job, read, steps, rest⟩ :=
    steps_of_prefix (save_trace policy target image (env.bytes image.link)) follows
  exact ⟨reads, job, read, .head (.move .begin fun _ => ⟨first, room⟩) steps, rest⟩

/-- An image that is begun can fail to be fetched, whatever the others are at, and ends them all. -/
theorem fails_next {c : Crowd} (begun : ReflTransGen (Step env .none fanout target) c
      ⟨before ++ (image, .running (image.save .none target) none) :: after, s⟩)
    {e : CallError} (told : e.isCanceled = false) (prompt : env.prompt = true) :
    ∃ c' s', ReflTransGen (Step env .none fanout target) c c' ∧
      Ends c' (.error (.article (.imageFailed image.number image.link 1 e))) s' ∧
      s'.files = Disk.discard s.files (image.cachePath target) := by
  have follows : Answering.Follows env.does s
      [⟨.canceled, false⟩, ⟨.image image.link, some (Except.error e)⟩,
        ⟨.dispose (image.cachePath target), ()⟩]
      { s with files := Disk.discard s.files (image.cachePath target),
               fetched := s.fetched ++ [image.link] } :=
    ⟨s, .inl ⟨rfl, by simp⟩, _, .inl ⟨rfl, by simp, by simp⟩, _,
      .inl (by simp [Supply.answers, prompt]), rfl⟩
  obtain ⟨read, steps⟩ := steps_of_trace (unfetched_trace target image e) follows
  have failed : image.outcome (.error (.exhausted 1 e)) =
      .error (.article (.imageFailed image.number image.link 1 e)) := by
    simp [Image.outcome, told]
  rw [failed] at steps
  exact ⟨_, _, begun.trans steps, .failed (List.mem_append_right _ List.mem_cons_self) .refl, rfl⟩

theorem saves_next {place : Place} (leads : s.files.LeadsTo (image.cachePath target) place)
    (first : ∀ p ∈ before, p.2 ≠ .waiting)
    (room : (before ++ after).countP (·.2.isRunning) < max fanout 1) :
    ∃ s', ReflTransGen (Step env policy fanout target) ⟨before ++ (image, .waiting) :: after, s⟩
        ⟨before ++ (image, .saved) :: after, s'⟩ ∧
      s'.files.home = s.files.home ∧ ∀ p, s'.files.isDirectory p = s.files.isDirectory p := by
  obtain ⟨reads, job, read, steps, rest⟩ := writes_next leads first room
  have directories (p : Place) :
      (s.written env image place).files.isDirectory p = s.files.isDirectory p :=
    FileTree.isDirectory_put leads.named leads.free p
  let saved : Stock := { s.written env image place with stored := s.stored ++ [image.entry env target] }
  have goes (s' : Stock) (given : env.answers saved (.dispose (image.cachePath target)) () s') :
      ReflTransGen (Step env policy fanout target) ⟨before ++ (image, .waiting) :: after, s⟩
        ⟨before ++ (image, .saved) :: after, s'⟩ := by
    obtain ⟨read', more⟩ := steps_of_trace rest
      ⟨saved, .inr ⟨rfl, env.bytes image.link, reads, rfl⟩, s', .inl given, rfl⟩
    exact (steps.trans more).tail (.move .finish nofun)
  by_cases prompt : env.prompt = true
  · refine ⟨{ saved with files := Disk.discard saved.files (image.cachePath target) }, goes _ ?_, ?_, ?_⟩
    · simp [Supply.answers, prompt]
    · exact (Disk.spares_discard saved.files _).home
    · exact fun p => (Disk.isDirectory_discard saved.files _ p).trans (directories p)
  · refine ⟨{ saved with handed := s.handed ++ [image.cachePath target] }, goes _ ?_, rfl, directories⟩
    simp [Supply.answers, prompt, saved, Stock.written]

theorem saves_all (images : List Image) (before : List (Image × Status)) (s : Stock)
    (saved : ∀ p ∈ before, p.2 = .saved)
    (leads : ∀ image ∈ images, ∃ place, s.files.LeadsTo (image.cachePath target) place) :
    ∃ s', ReflTransGen (Step env policy fanout target) ⟨before ++ images.map (·, .waiting), s⟩
      ⟨before ++ images.map (·, .saved), s'⟩ := by
  induction images generalizing before s with
  | nil => exact ⟨s, .refl⟩
  | cons image rest ih =>
    obtain ⟨place, leads_here⟩ := leads image List.mem_cons_self
    have first (p : Image × Status) (mem : p ∈ before) : p.2 ≠ .waiting := by simp [saved p mem]
    have room : (before ++ rest.map (·, Status.waiting)).countP (·.2.isRunning) < max fanout 1 := by
      rw [List.countP_eq_zero.mpr]
      · exact Nat.le_max_right _ _
      · intro p mem
        rcases List.mem_append.mp mem with done | waits
        · simp [saved p done, Status.isRunning]
        · obtain ⟨image, -, rfl⟩ := List.mem_map.mp waits
          simp [Status.isRunning]
    obtain ⟨m, steps, home, directories⟩ := saves_next leads_here first room
    obtain ⟨s', more⟩ := ih (before ++ [(image, .saved)]) m
      (fun p mem => (List.mem_append.mp mem).elim (saved p) fun last => by simp_all)
      (fun other mem => (leads other (List.mem_cons_of_mem _ mem)).imp fun place leads =>
        leads.congr home directories)
    rw [List.append_assoc, List.append_assoc] at more
    exact ⟨s', steps.trans more⟩

/-- What the images of a page can come to side by side, the download of the page can come to. -/
theorem downloads_of_ends {link : Link} {slug : String} {files : FileTree} {c : Crowd} {s' : Stock}
    {outcome : Except TransferError Unit} (slugged : pageSlug link = some slug)
    (some : imagesIn (env.page slug) ≠ [])
    (steps : ReflTransGen (Step env policy fanout target)
      (.start (imagesIn (env.page slug)) (.start files)) c)
    (ends : Ends c outcome s') :
    Downloads env policy fanout target link files
      (outcome.map fun _ => (imagesIn (env.page slug)).length) s' := by
  refine ⟨[⟨.page slug, .some (.ok (env.page slug))⟩], .ok _, .start files, ?_,
    ⟨_, ⟨rfl, by simp, by simp⟩, rfl⟩, c, outcome, steps, ends, rfl⟩
  simp only [collect, slugged]
  refine .ask (r := .page slug) (.some (.ok (env.page slug))) ?_
  simp [some]

theorem download_can_succeed {link : Link} {slug : String} {files : FileTree}
    (slugged : pageSlug link = some slug) (some : imagesIn (env.page slug) ≠ [])
    (leads : ∀ image ∈ imagesIn (env.page slug),
      ∃ place, files.LeadsTo (image.cachePath target) place) :
    ∃ s', Downloads env policy fanout target link files (.ok (imagesIn (env.page slug)).length) s' := by
  obtain ⟨s', steps⟩ := saves_all (imagesIn (env.page slug)) [] (.start files) nofun leads
  exact ⟨s', downloads_of_ends slugged some steps (.all (by simp))⟩

end Success

def twoPictures : Supply where
  page _ := [.element "img" [("src", "/file/a.jpg")]
    [.element "img" [("src", "https://cdn.example/b.png")] []]]
  bytes link := if link = "https://telegra.ph/file/a.jpg" then ⟨#[1]⟩ else ⟨#[2]⟩
  prompt := true
  cancelable := false

def trip : Target := ⟨.backend 0, "Trip", "cache", 1, Url.links⟩
def tripPage : Link := Url.read "https://telegra.ph/Trip"

def firstPicture : Image := ⟨1, "https://telegra.ph/file/a.jpg"⟩
def secondPicture : Image := ⟨2, "https://cdn.example/b.png"⟩

def cacheFolder : FileTree := ⟨[(["cache"], .directory)], []⟩

theorem picture_leads : ∀ image ∈ [firstPicture, secondPicture],
    ∃ place, cacheFolder.LeadsTo (image.cachePath trip) place := by
  have first : firstPicture.cachePath trip = "cache/1_1.jpg" := by decide +kernel
  have second : secondPicture.cachePath trip = "cache/1_2.png" := by decide +kernel
  have size : "cache/1_1.jpg".utf8ByteSize = 13 ∧ "cache/1_2.png".utf8ByteSize = 13 ∧
      "cache".utf8ByteSize = 5 ∧ "1_1.jpg".utf8ByteSize = 7 ∧ "1_2.png".utf8ByteSize = 7 := by decide
  rw [List.forall_mem_cons, List.forall_mem_singleton, first, second]
  constructor
  · have target : cacheFolder.target "cache/1_1.jpg" = .ok ⟨["cache", "1_1.jpg"], false, true⟩ := by
      simp [FileTree.target, FileTree.follow, Path.split, cacheFolder, size,
        FileTree.isDirectory, FileTree.find?, FileTree.longestPath, FileTree.longestName]
    exact ⟨_, FileTree.leadsTo_of_target target rfl (by simp [cacheFolder, FileTree.find?])⟩
  · have target : cacheFolder.target "cache/1_2.png" = .ok ⟨["cache", "1_2.png"], false, true⟩ := by
      simp [FileTree.target, FileTree.follow, Path.split, cacheFolder, size,
        FileTree.isDirectory, FileTree.find?, FileTree.longestPath, FileTree.longestName]
    exact ⟨_, FileTree.leadsTo_of_target target rfl (by simp [cacheFolder, FileTree.find?])⟩

end Courier.Article
