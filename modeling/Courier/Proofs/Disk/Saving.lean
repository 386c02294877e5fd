import Courier.Disk.Save
import Courier.Proofs.FileTree.Standing
import Mathlib.Logic.Relation

/-! What a save on disk leaves of the tree, however it ends and wherever it is stopped. It changes no
file but the one at its destination. That one it removes whenever it fails, also if it has not come
to writing it. -/
namespace Courier.Disk

open FileTree (Names Holds Spares)

/-- One thing that a copy does: it makes a directory, opens the new file, or adds bytes to it. -/
inductive CopyStep (target : String) (fs : FileTree) : FileTree → Prop where
  | paved {path : String} {made : FileTree} (h : fs.makeDirectory path = .ok made) :
      CopyStep target fs made
  | opened {made : FileTree} (h : fs.create target = .ok made) : CopyStep target fs made
  | added (more : Bytes) : CopyStep target fs (fs.append target more)

/-- The trees that a copy may have come to when it is stopped. -/
abbrev Copying (target : String) : FileTree → FileTree → Prop :=
  Relation.ReflTransGen (CopyStep target)

/-- How a save can end. A copy that comes through is all done. One that fails or is canceled may be
anywhere on its way, and what it has left at the destination is removed. `removed` tells whether that
comes to pass: the system may refuse it, and what the copy was at when it was stopped may be done
only after it. -/
inductive SaveEnds (fs : FileTree) (source target : String) :
    (removed : Bool) → Except CallError Unit → FileTree → Prop where
  | saved {fs' : FileTree} (copied : copy fs source target = (.ok (), fs')) :
      SaveEnds fs source target true (.ok ()) fs'
  | failed {m : FileTree} (e : CallError) (reached : Copying target fs m) :
      SaveEnds fs source target true (.error e) (discard m target)
  | refused {m : FileTree} (e : CallError) (reached : Copying target fs m) :
      SaveEnds fs source target false (.error e) m
  | overtaken {m fs' : FileTree} (e : CallError) (reached : Copying target fs m)
      (last : CopyStep target (discard m target) fs') :
      SaveEnds fs source target false (.error e) fs'

variable {fs m fs' : FileTree} {source target : String}

theorem CopyStep.spares (h : CopyStep target fs fs') : Spares target fs fs' := by
  cases h with
  | paved h => exact FileTree.spares_makeDirectory h target
  | opened h => exact FileTree.spares_write h
  | added more => exact FileTree.spares_append fs target more

theorem spares_of_copying (h : Copying target fs fs') : Spares target fs fs' := by
  induction h with
  | refl => exact .refl target fs
  | tail _ last ih => exact ih.trans last.spares

theorem ensureDirectory_copying (fs : FileTree) (path target : String) :
    Copying target fs (fs.ensureDirectory path).2 := by
  unfold FileTree.ensureDirectory
  split
  · next made h => exact .single (.paved h)
  · exact .refl

theorem paveUpTo_copying (target : String) (depth : Nat) (fs : FileTree) (path : String) :
    Copying target fs (fs.paveUpTo depth path).2 := by
  have made : Copying target fs (fs.ensureDirectory path).2 := ensureDirectory_copying fs path target
  -- The induction is on the depth. A parent is paved in the tree that the first try has left, and
  -- the directory is tried again in the tree that its parent has left.
  induction depth generalizing fs path with
  | zero =>
    unfold FileTree.paveUpTo
    split
    · exact .refl
    · split
      · next m hm => simpa [hm] using made
      · exact made
  | succ depth ih =>
    unfold FileTree.paveUpTo
    split
    · exact .refl
    · split
      · next m hm =>
        rw [hm] at made
        split
        · next d parent same _ =>
          obtain rfl := Nat.succ.inj same
          have on := ih m parent (ensureDirectory_copying m parent target)
          split
          · next m' hm' =>
            rw [hm'] at on
            exact (made.trans on).trans (ensureDirectory_copying m' path target)
          · next e m' hm' =>
            rw [hm'] at on
            exact made.trans on
        · exact made
      · exact made

theorem paveTo_copying (fs : FileTree) (target : String) : Copying target fs (paveTo fs target).2 := by
  unfold paveTo
  split
  · exact paveUpTo_copying target _ fs _
  · exact .refl

theorem spares_makeDirectories {dir : String} (made : fs.makeDirectories dir = .ok fs') (path : String) :
    Spares path fs fs' := by
  have copying : Copying path fs (fs.pave dir).2 := paveUpTo_copying path _ fs dir
  unfold FileTree.makeDirectories at made
  split at made
  · next m paved =>
    rw [paved] at copying
    rw [← Except.ok.inj made]
    exact spares_of_copying copying
  · contradiction

theorem copy_copying (fs : FileTree) (source target : String) :
    Copying target fs (copy fs source target).2 := by
  have paved := paveTo_copying fs target
  unfold copy
  split
  · next e m hm => simpa [hm] using paved
  · next m hm =>
    rw [hm] at paved
    split
    · exact paved
    · split
      · exact paved
      · next made hmade =>
        have opened : Copying target fs made := paved.tail (.opened hmade)
        split
        · exact opened
        · exact opened.tail (.added _)

theorem discard_cases (fs : FileTree) (path : String) :
    (discard fs path = fs ∧ ∀ content, fs.read path ≠ .ok content) ∨
      ∃ place, fs.LeadsTo path place ∧ discard fs path = fs.erase place := by
  unfold discard FileTree.remove
  rcases found : fs.lookup path with e | ⟨place, _ | content⟩
  · exact Or.inl ⟨rfl, by simp [FileTree.read_eq_ok, found]⟩
  · exact Or.inl ⟨rfl, by simp [FileTree.read_eq_ok, found]⟩
  · exact Or.inr ⟨place, FileTree.lookup_leadsTo found, rfl⟩

theorem spares_discard (fs : FileTree) (path : String) : Spares path fs (discard fs path) := by
  obtain ⟨same, -⟩ | ⟨place, leads, erased⟩ := discard_cases fs path
  · rw [same]
    exact .refl path fs
  · rw [erased]
    exact leads.spares_erase

theorem isDirectory_discard (fs : FileTree) (path : String) (p : Place) :
    (discard fs path).isDirectory p = fs.isDirectory p := by
  obtain ⟨same, -⟩ | ⟨place, leads, erased⟩ := discard_cases fs path
  · rw [same]
  · rw [erased]
    by_cases here : p = place
    · rw [here, leads.free, FileTree.isDirectory, FileTree.find?_erase_self fs leads.named]
    · rw [FileTree.isDirectory, FileTree.isDirectory, FileTree.find?_erase_of_ne fs here]

theorem read_discard (fs : FileTree) (path : String) (content : Bytes) :
    (discard fs path).read path ≠ .ok content := by
  obtain ⟨same, unread⟩ | ⟨place, leads, erased⟩ := discard_cases fs path
  · rw [same]
    exact unread content
  · rw [erased, ne_eq, FileTree.read_eq_holds]
    rintro ⟨p, named, holds⟩
    obtain rfl : place = p := (leads.spares_erase.names leads.names).unique named
    rw [Holds, FileTree.find?_erase_self fs leads.named] at holds
    contradiction

theorem fileAt_discard {path : String} (tended : FileTree.Tended path fs) :
    (discard fs path).fileAt path = none := by
  rw [Option.eq_none_iff_forall_ne_some]
  intro content found
  exact read_discard fs path content (tended.spares (spares_discard fs path) content found)

theorem save_ends (fs : FileTree) (canceled : Bool) (source target : String) :
    SaveEnds fs source target true (save fs canceled source target).1
      (save fs canceled source target).2 := by
  unfold save
  cases canceled with
  | true => exact .failed .canceled .refl
  | false =>
    have reached := copy_copying fs source target
    rw [if_neg Bool.false_ne_true]
    split
    · next m hm => exact .saved hm
    · next e m hm =>
      rw [hm] at reached
      exact .failed (.os e) reached

theorem SaveEnds.spares {removed : Bool} {result : Except CallError Unit}
    (h : SaveEnds fs source target removed result fs') : Spares target fs fs' := by
  cases h with
  | saved copied =>
    have reached := copy_copying fs source target
    rw [copied] at reached
    exact spares_of_copying reached
  | failed e reached => exact (spares_of_copying reached).trans (spares_discard _ target)
  | refused e reached => exact spares_of_copying reached
  | overtaken e reached last =>
    exact ((spares_of_copying reached).trans (spares_discard _ target)).trans last.spares

theorem copied_steps (copied : copy fs source target = (.ok (), fs')) :
    ∃ (made : FileTree) (content : Bytes), made.read target = .ok ByteArray.empty ∧
      made.read source = .ok content ∧ fs' = made.append target content := by
  unfold copy at copied
  split at copied
  · simp at copied
  · split at copied
    · simp at copied
    · split at copied
      · simp at copied
      · next made opened =>
        split at copied
        · simp at copied
        · next content hr =>
          exact ⟨made, content, FileTree.read_write opened, hr, (Prod.mk.inj copied).2.symm⟩

theorem read_of_copied (copied : copy fs source target = (.ok (), fs'))
    (apart : ∀ p, fs'.Names source p → ¬ fs'.Names target p) :
    ∃ content, fs'.read target = .ok content ∧ fs'.read source = .ok content := by
  obtain ⟨made, content, fresh, hr, rfl⟩ := copied_steps copied
  have spares := FileTree.spares_append made target content
  refine ⟨content, ?_, ?_⟩
  · rw [FileTree.read_append fresh, ByteArray.empty_append]
  · obtain ⟨p, named, holds⟩ := FileTree.read_eq_holds.mp hr
    have named' := spares.names named
    exact FileTree.read_eq_holds.mpr ⟨p, named', (spares.files p (apart p named') content).mpr holds⟩

theorem SaveEnds.read_saved {removed : Bool} {content : Bytes}
    (ends : SaveEnds fs source target removed (.ok ()) fs')
    (apart : fs.standing source ≠ fs.standing target) (read : fs.read source = .ok content) :
    fs'.read target = .ok content := by
  have spares := ends.spares
  cases ends with
  | saved copied =>
    obtain ⟨kept, ht, hs⟩ := read_of_copied copied fun p named other => apart <| by
      have same := named.place_eq.symm.trans other.place_eq
      rw [FileTree.standing_congr spares.home, FileTree.standing_congr spares.home] at same
      exact (List.map_inj_right fun _ _ => String.ofList_inj.mp).mp same
    rw [(spares.beside apart).read read] at hs
    rw [ht, Except.ok.inj hs]

/-- Whichever way a save ends, all files are as they were but the one at its destination. If it comes
through, that one is what its source is. If it does not, there is no file at the destination any more,
whether it was the save that made it or not; so that nothing is lost only where there was none. -/
theorem save_changes_target_only (fs : FileTree) (source target : String) :
    (∀ canceled, SaveEnds fs source target true (save fs canceled source target).1
      (save fs canceled source target).2) ∧
    ∀ removed result fs', SaveEnds fs source target removed result fs' →
      (∀ p, ¬ fs'.Names target p → ∀ content, fs'.Holds p content ↔ fs.Holds p content) ∧
      (∀ e, result = .error e → removed = true →
        (∀ content, fs'.read target ≠ .ok content) ∧
        ((∀ p, fs'.Names target p → ∀ content, ¬ fs.Holds p content) →
          ∀ p content, fs'.Holds p content ↔ fs.Holds p content)) ∧
      (result = .ok () → (∀ p, fs'.Names source p → ¬ fs'.Names target p) →
        ∃ content, fs'.read target = .ok content ∧ fs'.read source = .ok content ∧
          ∀ before, fs.read source = .ok before → before = content) := by
  refine ⟨fun canceled => save_ends fs canceled source target, fun removed result fs' ends => ?_⟩
  have spares := ends.spares
  refine ⟨spares.files, fun e failed done => ?_, fun through apart => ?_⟩
  · have gone : ∀ content, fs'.read target ≠ .ok content := by
      cases ends with
      | saved copied => contradiction
      | failed e reached => exact read_discard _ target
      | refused e reached => contradiction
      | overtaken e reached last => contradiction
    refine ⟨gone, fun free p content => ?_⟩
    by_cases named : fs'.Names target p
    · refine iff_of_false (fun holds => ?_) (free p named content)
      exact gone content (FileTree.read_eq_holds.mpr ⟨p, named, holds⟩)
    · exact spares.files p named content
  · cases ends with
    | saved copied =>
      obtain ⟨content, ht, hs⟩ := read_of_copied copied apart
      refine ⟨content, ht, hs, fun before hb => ?_⟩
      obtain ⟨p, named, holds⟩ := FileTree.read_eq_holds.mp hb
      have named' := spares.names named
      have kept := (spares.files p (apart p named') before).mpr holds
      rw [FileTree.read_eq_holds.mpr ⟨p, named', kept⟩] at hs
      exact Except.ok.inj hs
    | failed e reached => contradiction
    | refused e reached => contradiction
    | overtaken e reached last => contradiction

def twoFiles : FileTree :=
  ⟨[(["in.bin"], .file ⟨#[110]⟩), (["out.bin"], .file ⟨#[111]⟩)], []⟩

/-- A save that is canceled before it starts takes the file away that stood at its destination. -/
theorem save_canceled_loses_old_file :
    twoFiles.read "out.bin" = .ok ⟨#[111]⟩ ∧
      (save twoFiles true "in.bin" "out.bin").1 = .error .canceled ∧
      ∀ content, (save twoFiles true "in.bin" "out.bin").2.read "out.bin" ≠ .ok content := by
  have size : "out.bin".utf8ByteSize = 7 := by decide
  have target : twoFiles.target "out.bin" = .ok ⟨["out.bin"], false, true⟩ := by
    simp [FileTree.target, FileTree.follow, Path.split, twoFiles, size, FileTree.isDirectory,
      FileTree.find?, FileTree.longestPath, FileTree.longestName]
  refine ⟨FileTree.read_eq_holds.mpr ⟨_, ⟨_, target, rfl, rfl⟩, rfl⟩, rfl, ?_⟩
  exact read_discard twoFiles "out.bin"

end Courier.Disk
