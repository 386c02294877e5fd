import Courier.Proofs.FileTree.Sparing
import Courier.Proofs.Path.Name

/-! Where paths are in a tree, and what files are there. A path has its place whether or not the
directories on the way exist, so that a file can be missing at it. -/
namespace Courier.FileTree

open Courier.Path

/-- Where a path is in a tree, by the names on the way from the root. -/
def standing (fs : FileTree) (path : String) : List (List Char) :=
  if path.startsWith "/" then (course path).down
  else (Course.append true ⟨0, fs.home.map String.toList⟩ (course path)).down

theorem foldl_step_of_empty (c : Course) {rest : List String} (empty : ∀ s ∈ rest, s = "") :
    (rest.map String.toList).foldl (Course.step true) c = c := by
  induction rest with
  | nil => rfl
  | cons s rest ih =>
    have hs : s.toList = [] := by simp [empty s List.mem_cons_self]
    rw [List.map_cons, hs, List.foldl_cons, Course.step_nil]
    exact ih fun s' mem => empty s' (List.mem_cons_of_mem _ mem)

/-- One segment on the way of a path in a tree is one step of its course. -/
theorem step_rooted (here : Place) (segment : String) :
    Course.step true ⟨0, here.map String.toList⟩ segment.toList =
      ⟨0, (if segment = "" ∨ segment = "." then here
        else if segment = ".." then here.dropLast
        else here ++ [segment]).map String.toList⟩ := by
  have empty : segment.toList = [] ↔ segment = "" := String.toList_eq_nil_iff
  have dot : segment.toList = ['.'] ↔ segment = "." := by rw [← String.toList_inj]; rfl
  have dots : segment.toList = dotDot ↔ segment = ".." := by rw [← String.toList_inj]; rfl
  simp only [Course.step, empty, dot, dots]
  split_ifs with nothing upward root
  · rfl
  · simp_all
  · simp [List.map_dropLast]
  · simp

theorem follow_place {fs : FileTree} {here : Place} {segments : List String} {t : Target}
    (h : fs.follow here segments = .ok t) :
    t.place.map String.toList =
      ((segments.map String.toList).foldl (Course.step true) ⟨0, here.map String.toList⟩).down := by
  -- The induction goes along the path. Slashes at its end are no steps of the course.
  induction segments generalizing here with
  | nil =>
    rw [← Except.ok.inj h]
    rfl
  | cons segment rest ih =>
    rw [List.map_cons, List.foldl_cons, step_rooted]
    unfold follow at h
    simp only [Bool.or_eq_true, beq_iff_eq] at h
    split_ifs at h with outside nothing upward long last closed
    · rw [if_pos nothing]
      exact ih h
    · rw [if_neg nothing, if_pos upward]
      exact ih h
    · rw [if_neg nothing, if_neg upward, ← Except.ok.inj h, List.isEmpty_iff.mp last]
      rfl
    · have empty : ∀ s ∈ rest, s = "" := by simpa using closed
      rw [if_neg nothing, if_neg upward, foldl_step_of_empty _ empty, ← Except.ok.inj h]
    · rw [if_neg nothing, if_neg upward]
      exact ih h

theorem target_place {fs : FileTree} {path : String} {t : Target} (h : fs.target path = .ok t) :
    t.place.map String.toList = fs.standing path := by
  have texts (segments : List (List Char)) :
      (segments.map String.ofList).map String.toList = segments := by simp
  unfold target at h
  split_ifs at h with nul empty long rooted
  · rw [follow_place h, texts, standing, if_pos rooted, course, rooted]
    rfl
  · rw [follow_place h, texts, standing, if_neg rooted, course, Bool.eq_false_iff.mpr rooted,
      ← Course.foldl_step]

theorem standing_congr {fs fs' : FileTree} (home : fs'.home = fs.home) (path : String) :
    fs'.standing path = fs.standing path := by
  rw [standing, standing, home]

theorem standing_below (fs : FileTree) (dir : String) {name : String} (h : IsName name) :
    fs.standing (below dir name) = fs.standing dir ++ [name.toList] := by
  have course_eq : course (below dir name) = ⟨(course dir).up, (course dir).down ++ [name.toList]⟩ := by
    rw [course_below dir h.relative, h.course]
    simp [Course.append]
  unfold standing
  rw [below_startsWith dir h.relative, course_eq]
  split
  · rfl
  · simp [Course.append]

theorem standing_below_injective (fs : FileTree) (dir : String) {name other : String} (h : IsName name)
    (ho : IsName other) (same : fs.standing (below dir name) = fs.standing (below dir other)) :
    name = other := by
  rw [standing_below fs dir h, standing_below fs dir ho] at same
  exact String.toList_inj.mp (List.cons.inj (List.append_cancel_left same)).1

/-- The content of the file where a path is, if there is one. -/
@[irreducible] def fileAt (fs : FileTree) (path : String) : Option Bytes :=
  match fs.find? ((fs.standing path).map String.ofList) with
  | some (.file content) => some content
  | _ => none

variable {fs fs' : FileTree} {path other : String} {place : Place} {content : Bytes}

theorem fileAt_eq_some : fs.fileAt path = some content ↔
    fs.Holds ((fs.standing path).map String.ofList) content := by
  unfold fileAt Holds
  rcases fs.find? ((fs.standing path).map String.ofList) with _ | _ | old <;> simp

theorem Names.place_eq (h : fs.Names path place) : place = (fs.standing path).map String.ofList := by
  obtain ⟨t, ht, rfl, -⟩ := h
  rw [← target_place ht, List.map_map]
  simp

theorem fileAt_congr (home : fs'.home = fs.home)
    (same : ∀ content, fs'.Holds ((fs.standing path).map String.ofList) content ↔
      fs.Holds ((fs.standing path).map String.ofList) content) : fs'.fileAt path = fs.fileAt path := by
  apply Option.ext
  intro content
  rw [fileAt_eq_some, fileAt_eq_some, standing_congr home]
  exact same content

theorem Spares.fileAt (spares : Spares path fs fs')
    (apart : fs.standing other ≠ fs.standing path) : fs'.fileAt other = fs.fileAt other := by
  refine fileAt_congr spares.home fun content => spares.files _ (fun named => apart ?_) content
  have place := named.place_eq
  rw [standing_congr spares.home] at place
  exact (List.map_inj_right fun _ _ => String.ofList_inj.mp).mp place

/-- Whether the file where a path is, if there is one, can be read. -/
def Tended (path : String) (fs : FileTree) : Prop :=
  ∀ content, fs.fileAt path = some content → fs.read path = .ok content

theorem tended_of_none (h : fs.fileAt path = none) : Tended path fs := by
  intro content found
  rw [h] at found
  contradiction

theorem fileAt_of_read (h : fs.read path = .ok content) : fs.fileAt path = some content := by
  obtain ⟨place, named, holds⟩ := read_eq_holds.mp h
  rw [named.place_eq] at holds
  exact fileAt_eq_some.mpr holds

/-- Work on a path itself keeps its file readable: it has made it, or the file has been there. -/
theorem Tended.spares (tended : Tended path fs) (spares : Spares path fs fs') : Tended path fs' := by
  intro content found
  have holds := fileAt_eq_some.mp found
  by_cases named : fs'.Names path ((fs'.standing path).map String.ofList)
  · exact read_eq_holds.mpr ⟨_, named, holds⟩
  · have old := (spares.files _ named content).mp holds
    rw [standing_congr spares.home] at old
    obtain ⟨place, was, -⟩ := read_eq_holds.mp (tended content (fileAt_eq_some.mpr old))
    have place_eq := was.place_eq
    rw [← standing_congr spares.home] at place_eq
    exact absurd (place_eq ▸ spares.names was) named

/-- What becomes of a tree by work beside a path: its file stays as it is, and no directory goes. -/
structure Beside (path : String) (fs fs' : FileTree) : Prop where
  home : fs'.home = fs.home
  directories : ∀ p, fs.isDirectory p = true → fs'.isDirectory p = true
  file : fs'.fileAt path = fs.fileAt path

theorem Beside.refl (path : String) (fs : FileTree) : Beside path fs fs :=
  ⟨rfl, fun _ h => h, rfl⟩

theorem Beside.trans {m : FileTree} (first : Beside path fs m) (second : Beside path m fs') :
    Beside path fs fs' where
  home := second.home.trans first.home
  directories p h := second.directories p (first.directories p h)
  file := second.file.trans first.file

theorem Spares.beside (spares : Spares path fs fs')
    (apart : fs.standing other ≠ fs.standing path) : Beside other fs fs' :=
  ⟨spares.home, spares.directories, spares.fileAt apart⟩

theorem Tended.beside (tended : Tended path fs) (beside : Beside path fs fs') : Tended path fs' := by
  intro content found
  have old : fs.fileAt path = some content := beside.file.symm.trans found
  obtain ⟨place, ⟨t, ht, rest⟩, -⟩ := read_eq_holds.mp (tended content old)
  have named : fs'.Names path place := ⟨t, target_mono beside.home beside.directories ht, rest⟩
  have holds := fileAt_eq_some.mp found
  rw [← named.place_eq] at holds
  exact read_eq_holds.mpr ⟨place, named, holds⟩

theorem Beside.read (beside : Beside path fs fs') (h : fs.read path = .ok content) :
    fs'.read path = .ok content := by
  have found := fileAt_of_read h
  have tended : Tended path fs := by
    intro other there
    rw [Option.some.inj (there.symm.trans found)]
    exact h
  exact tended.beside beside content (beside.file.trans found)

end Courier.FileTree
