import Courier.Proofs.Path.Name
import Courier.Rule.Basic
import Courier.Storage.Basic

/-! Joined paths. What a join keeps are the double dots and the names of the course of its two parts, so
that it is the one canonical path that leads where they lead. -/
namespace Courier.Path

/-- The segments of a path, without the empty one before its root; nothing and the root have none. -/
def pieces (path : String) : List (List Char) :=
  let body := if path.startsWith "/" then path.toList.tail else path.toList
  if body = [] then [] else split body

/-- A path with nothing to clean. -/
structure IsCanonical (path : String) : Prop where
  given : ∀ s ∈ pieces path, s ≠ [] ∧ s ≠ ['.']
  dots_first : ∃ up names, pieces path = List.replicate up dotDot ++ names ∧ dotDot ∉ names
  no_dots_of_rooted : path.startsWith "/" = true → dotDot ∉ pieces path
  root_of_closed : path.endsWith "/" = true → path = "/"

/-- Goes on from a place by one segment; above the root there is nothing to go to. -/
def visit (place : List (List Char)) (segment : List Char) : List (List Char) :=
  if segment = [] ∨ segment = ['.'] then place
  else if segment = dotDot then place.dropLast
  else place ++ [segment]

/-- Where a path leads from a place, from the root if it is rooted. -/
def walk (place : List (List Char)) (path : String) : List (List Char) :=
  (split path.toList).foldl visit (if path.startsWith "/" then [] else place)

namespace Course

/-- The segments that say a course and nothing else. -/
def segments (c : Course) : List (List Char) :=
  List.replicate c.up dotDot ++ c.down

/-- A course of a rooted or a relative path: it goes down by names, and never above a root. -/
structure Proper (rooted : Bool) (c : Course) : Prop where
  named : ∀ s ∈ c.down, s ≠ [] ∧ s ≠ ['.'] ∧ s ≠ dotDot ∧ '/' ∉ s
  level : rooted = true → c.up = 0

variable {rooted : Bool} {c : Course}

theorem proper_start (rooted : Bool) : start.Proper rooted :=
  ⟨nofun, fun _ => rfl⟩

theorem Proper.step (proper : c.Proper rooted) {segment : List Char} (whole : '/' ∉ segment) :
    (c.step rooted segment).Proper rooted := by
  unfold Course.step
  split_ifs with nothing upward bare root
  · exact proper
  · exact ⟨proper.named, fun _ => proper.level root⟩
  · exact ⟨proper.named, fun hr => absurd hr root⟩
  · exact ⟨fun s hs => proper.named s ((List.dropLast_sublist _).mem hs), proper.level⟩
  · refine ⟨fun s hs => ?_, proper.level⟩
    rcases List.mem_append.mp hs with earlier | new
    · exact proper.named s earlier
    · rw [List.mem_singleton.mp new]
      rw [not_or] at nothing
      exact ⟨nothing.1, nothing.2, upward, whole⟩

theorem Proper.foldl_step (proper : c.Proper rooted) {segments : List (List Char)}
    (whole : ∀ s ∈ segments, '/' ∉ s) : (segments.foldl (Course.step rooted) c).Proper rooted := by
  induction segments generalizing c with
  | nil => exact proper
  | cons segment segments ih =>
    exact ih (proper.step (whole segment List.mem_cons_self)) fun s hs =>
      whole s (List.mem_cons_of_mem _ hs)

/-- The last segment of a course is the one that a double dot takes back. -/
theorem push_segments (proper : c.Proper rooted) (segment : List Char) :
    push rooted c.segments.reverse segment = (c.step rooted segment).segments.reverse := by
  rw [push.eq_def]
  unfold Course.step
  by_cases nothing : segment = [] ∨ segment = ['.']
  · rw [if_pos nothing, if_pos nothing]
  rw [if_neg nothing, if_neg nothing]
  by_cases upward : segment = dotDot
  · rw [if_pos upward, if_pos upward]
    obtain ⟨up, down⟩ := c
    rcases List.eq_nil_or_concat down with rfl | ⟨front, last, rfl⟩
    · -- There are only double dots, and none of them below a root.
      have dots (n : Nat) : (Course.mk n []).segments.reverse = List.replicate n dotDot := by
        simp [segments]
      rw [if_pos rfl, dots, dots]
      cases rooted with
      | true =>
        obtain rfl : up = 0 := proper.level rfl
        rfl
      | false => cases up <;> simp [List.replicate_succ, upward]
    · rw [List.concat_eq_append] at proper ⊢
      have named : last ≠ dotDot := (proper.named last (by simp)).2.2.1
      simp [segments, named]
  · rw [if_neg upward, if_neg upward]
    simp [segments]

theorem foldl_step_names {names : List (List Char)} (up : Nat) (down : List (List Char))
    (named : ∀ s ∈ names, s ≠ [] ∧ s ≠ ['.'] ∧ s ≠ dotDot) :
    names.foldl (Course.step rooted) ⟨up, down⟩ = ⟨up, down ++ names⟩ := by
  induction names generalizing down with
  | nil => rw [List.foldl_nil, List.append_nil]
  | cons name names ih =>
    obtain ⟨given, no_dot, no_dots⟩ := named name List.mem_cons_self
    rw [List.foldl_cons, Course.step, if_neg (not_or.mpr ⟨given, no_dot⟩), if_neg no_dots,
      ih _ fun s hs => named s (List.mem_cons_of_mem _ hs), List.append_assoc, List.singleton_append]

theorem foldl_step_dots (up n : Nat) :
    (List.replicate n dotDot).foldl (Course.step false) ⟨up, []⟩ = ⟨up + n, []⟩ := by
  induction n generalizing up with
  | zero => rfl
  | succ n ih =>
    have climbed : Course.step false ⟨up, []⟩ dotDot = ⟨up + 1, []⟩ := rfl
    rw [List.replicate_succ, List.foldl_cons, climbed, ih, Nat.add_assoc, Nat.add_comm 1]

theorem Proper.foldl_segments (proper : c.Proper rooted) :
    c.segments.foldl (Course.step rooted) start = c := by
  have climbed : (List.replicate c.up dotDot).foldl (Course.step rooted) start = ⟨c.up, []⟩ := by
    cases rooted with
    | true =>
      rw [proper.level rfl]
      rfl
    | false => rw [start, foldl_step_dots, Nat.zero_add]
  rw [segments, List.foldl_append, climbed, foldl_step_names, List.nil_append]
  intro s hs
  obtain ⟨given, no_dot, no_dots, -⟩ := proper.named s hs
  exact ⟨given, no_dot, no_dots⟩

theorem clean_eq_segments {segments : List (List Char)} (whole : ∀ s ∈ segments, '/' ∉ s) :
    clean rooted segments = (segments.foldl (Course.step rooted) start).segments := by
  have kept {c : Course} (proper : c.Proper rooted) :
      segments.foldl (push rooted) c.segments.reverse =
        (segments.foldl (Course.step rooted) c).segments.reverse := by
    induction segments generalizing c with
    | nil => rfl
    | cons segment segments ih =>
      rw [List.foldl_cons, List.foldl_cons, push_segments proper]
      exact ih (fun s hs => whole s (List.mem_cons_of_mem _ hs))
        (proper.step (whole segment List.mem_cons_self))
  rw [clean, List.reverse_eq_iff]
  exact kept (proper_start rooted)

end Course

theorem split_intercalate {segments : List (List Char)} (given : segments ≠ [])
    (whole : ∀ s ∈ segments, '/' ∉ s) : split (List.intercalate ['/'] segments) = segments := by
  induction segments using List.reverseRecOn with
  | nil => exact absurd rfl given
  | append_singleton front last ih =>
    have hl : split last = [last] := split_eq_singleton (whole last (by simp))
    by_cases single : front = []
    · rw [single, List.nil_append, List.intercalate_singleton, hl]
    · rw [intercalate_concat ['/'] last single, List.singleton_append, split_append_slash, hl,
        ih single fun s hs => whole s (List.mem_append_left _ hs)]

theorem intercalate_eq_nil_iff {segments : List (List Char)} (given : ∀ s ∈ segments, s ≠ []) :
    List.intercalate ['/'] segments = [] ↔ segments = [] := by
  constructor
  · intro empty
    rcases List.eq_nil_or_concat segments with rfl | ⟨front, last, rfl⟩
    · rfl
    · rw [List.concat_eq_append] at empty given
      have ends : last <:+ render false (front ++ [last]) := suffix_render front last
      have bare : last <:+ [] := empty ▸ ends
      exact absurd (List.suffix_nil.mp bare) (given last (by simp))
  · rintro rfl
    rfl

section Render

variable {rooted : Bool} {segments : List (List Char)}

theorem startsWith_render (clean : ∀ s ∈ segments, s ≠ [] ∧ '/' ∉ s) :
    (String.ofList (render rooted segments)).startsWith "/" = rooted := by
  rw [Bool.eq_iff_iff, startsWith_slash, String.toList_ofList]
  cases rooted with
  | true => simp [render]
  | false =>
    constructor
    · rintro ⟨rest, slash⟩
      cases segments with
      | nil => simp [render] at slash
      | cons first others =>
        -- The text begins with the first segment, which is given and has no slash.
        obtain ⟨c, cs, rfl⟩ := List.exists_cons_of_ne_nil (clean first List.mem_cons_self).1
        have hc : c ≠ '/' := fun same => (clean (c :: cs) List.mem_cons_self).2 (by simp [same])
        cases others <;> simp [render, hc] at slash
    · intro same
      exact absurd same Bool.false_ne_true

theorem pieces_render (clean : ∀ s ∈ segments, s ≠ [] ∧ '/' ∉ s) :
    pieces (String.ofList (render rooted segments)) = segments := by
  have body : (if rooted then (render rooted segments).tail else render rooted segments) =
      List.intercalate ['/'] segments := by
    cases rooted <;> rfl
  rw [pieces, startsWith_render clean, String.toList_ofList, body]
  simp only [intercalate_eq_nil_iff fun s hs => (clean s hs).1]
  split
  · next empty => exact empty.symm
  · next given => exact split_intercalate given fun s hs => (clean s hs).2

/-- A path of clean segments is cut into these, and into empty ones that go nowhere. -/
theorem foldl_split_render {α : Type} {f : α → List Char → α} (nowhere : ∀ a, f a [] = a)
    (clean : ∀ s ∈ segments, s ≠ [] ∧ '/' ∉ s) (a : α) :
    (split (render rooted segments)).foldl f a = segments.foldl f a := by
  have body : (split (List.intercalate ['/'] segments)).foldl f a = segments.foldl f a := by
    by_cases given : segments = []
    · subst given
      exact nowhere a
    · rw [split_intercalate given fun s hs => (clean s hs).2]
  cases rooted with
  | false => exact body
  | true =>
    show (split ('/' :: List.intercalate ['/'] segments)).foldl f a = _
    rw [split, if_pos rfl, List.foldl_cons, nowhere, body]

theorem root_of_closed_render (clean : ∀ s ∈ segments, s ≠ [] ∧ '/' ∉ s)
    (closed : (String.ofList (render rooted segments)).endsWith "/" = true) :
    String.ofList (render rooted segments) = "/" := by
  obtain ⟨front, slash⟩ := (endsWith_slash _).mp closed
  rw [String.toList_ofList] at slash
  rcases List.eq_nil_or_concat segments with rfl | ⟨before, last, rfl⟩
  · cases rooted with
    | true => rfl
    | false => simp [render] at slash
  · -- The last segment ends the path, and no slash ends the segment.
    rw [List.concat_eq_append] at clean slash
    obtain ⟨given, whole⟩ := clean last (by simp)
    obtain ⟨begun, hb⟩ : last <:+ render rooted (before ++ [last]) := suffix_render before last
    have tip : (begun ++ last).getLast? = some '/' := by rw [hb, slash]; simp
    rw [List.getLast?_append, List.getLast?_eq_some_getLast given, Option.some_or] at tip
    exact absurd (Option.some.inj tip ▸ List.getLast_mem given) whole

end Render

theorem slash_not_mem_parts {dir rest s : List Char} (hs : s ∈ split dir ++ split rest) : '/' ∉ s :=
  (List.mem_append.mp hs).elim slash_not_mem_split slash_not_mem_split

/-- The course of two paths one after the other. -/
def joined (dir rest : String) : Course :=
  (split dir.toList ++ split rest.toList).foldl (Course.step (joinRooted dir.toList rest.toList)) .start

section Join

variable (dir rest : String)

theorem joined_proper : (joined dir rest).Proper (joinRooted dir.toList rest.toList) :=
  (Course.proper_start _).foldl_step fun _ => slash_not_mem_parts

theorem join_eq_render : join dir rest =
    String.ofList (render (joinRooted dir.toList rest.toList) (joined dir rest).segments) := by
  rw [join, joinChars, Course.clean_eq_segments fun _ => slash_not_mem_parts]
  rfl

theorem segments_clean : ∀ s ∈ (joined dir rest).segments, s ≠ [] ∧ '/' ∉ s := by
  intro s hs
  rcases List.mem_append.mp hs with dots | name
  · rw [List.eq_of_mem_replicate dots]
    decide
  · obtain ⟨given, -, -, whole⟩ := (joined_proper dir rest).named s name
    exact ⟨given, whole⟩

theorem startsWith_join : (join dir rest).startsWith "/" = joinRooted dir.toList rest.toList := by
  rw [join_eq_render, startsWith_render (segments_clean dir rest)]

theorem course_join : course (join dir rest) = joined dir rest := by
  rw [course, startsWith_join, join_eq_render, String.toList_ofList,
    foldl_split_render (fun _ => Course.step_nil) (segments_clean dir rest),
    (joined_proper dir rest).foldl_segments]

theorem isCanonical_join : IsCanonical (join dir rest) := by
  have clean := segments_clean dir rest
  have proper := joined_proper dir rest
  have bare : dotDot ∉ (joined dir rest).down := fun mem => (proper.named _ mem).2.2.1 rfl
  have kept : pieces (join dir rest) = (joined dir rest).segments := by
    rw [join_eq_render, pieces_render clean]
  constructor
  case given =>
    rw [kept]
    intro s hs
    rcases List.mem_append.mp hs with dots | name
    · rw [List.eq_of_mem_replicate dots]
      decide
    · obtain ⟨given, no_dot, -⟩ := proper.named s name
      exact ⟨given, no_dot⟩
  case dots_first => exact ⟨_, _, kept, bare⟩
  case no_dots_of_rooted =>
    intro rooted
    rw [startsWith_join] at rooted
    rw [kept, Course.segments, proper.level rooted]
    exact bare
  case root_of_closed =>
    rw [join_eq_render]
    exact root_of_closed_render clean

end Join

variable {dir rest : String}

theorem joinRooted_iff : joinRooted dir.toList rest.toList = true ↔
    dir.startsWith "/" = true ∨ dir = "" ∧ rest.startsWith "/" = true := by
  have first (path : String) : path.toList.head? = some '/' ↔ path.startsWith "/" = true := by
    rw [startsWith_slash]
    cases path.toList with
    | nil => simp
    | cons c cs => simp
  rw [joinRooted, Bool.or_eq_true, Bool.and_eq_true, beq_iff_eq, beq_iff_eq, first, first,
    List.isEmpty_iff, String.toList_eq_nil_iff]

theorem joinRooted_of_given (given : dir ≠ "") :
    joinRooted dir.toList rest.toList = dir.startsWith "/" := by
  rw [Bool.eq_iff_iff, joinRooted_iff]
  simp [given]

theorem joinRooted_of_relative (relative : rest.startsWith "/" = false) :
    joinRooted dir.toList rest.toList = dir.startsWith "/" := by
  rw [Bool.eq_iff_iff, joinRooted_iff, relative]
  simp

theorem joinRooted_empty (path : String) : joinRooted "".toList path.toList = path.startsWith "/" := by
  have relative : ("" : String).startsWith "/" = false := by decide
  rw [Bool.eq_iff_iff, joinRooted_iff, relative]
  simp

theorem join_congr {dir' rest' : String}
    (rooted : joinRooted dir.toList rest.toList = joinRooted dir'.toList rest'.toList)
    (same : joined dir rest = joined dir' rest') : join dir rest = join dir' rest' := by
  rw [join_eq_render, join_eq_render, rooted, same]

theorem joined_empty_left (path : String) : joined "" path = course path := by
  rw [joined, joinRooted_empty]
  rfl

theorem joined_empty_right (path : String) : joined path "" = course path := by
  have relative : ("" : String).startsWith "/" = false := by decide
  rw [joined, joinRooted_of_relative relative, List.foldl_append]
  exact @Course.step_nil (path.startsWith "/") _

theorem join_empty (dir rest : String) : join "" (join dir rest) = join dir rest ∧
    join (join dir rest) "" = join dir rest := by
  have relative : ("" : String).startsWith "/" = false := by decide
  constructor
  · apply join_congr
    · rw [joinRooted_empty, startsWith_join]
    · rw [joined_empty_left, course_join]
  · apply join_congr
    · rw [joinRooted_of_relative relative, startsWith_join]
    · rw [joined_empty_right, course_join]

/-- Relative paths may be joined in any order to what they are put below. -/
theorem join_assoc (a : String) {b c : String} (relative : b.startsWith "/" = false)
    (relative' : c.startsWith "/" = false) : join a (join b c) = join (join a b) c := by
  have inner : (join b c).startsWith "/" = false := by
    rw [startsWith_join, joinRooted_of_relative relative', relative]
  have outer : (join a b).startsWith "/" = a.startsWith "/" := by
    rw [startsWith_join, joinRooted_of_relative relative]
  have leads : (split (join b c).toList).foldl (Course.step false) .start =
      (split b.toList ++ split c.toList).foldl (Course.step false) .start := by
    have h := course_join b c
    rwa [course, inner, joined, joinRooted_of_relative relative', relative] at h
  apply join_congr
  · rw [joinRooted_of_relative inner, joinRooted_of_relative relative', outer]
  · calc joined a (join b c)
        = (split (join b c).toList).foldl (Course.step (a.startsWith "/"))
            ((split a.toList).foldl (Course.step (a.startsWith "/")) .start) := by
          rw [joined, joinRooted_of_relative inner, List.foldl_append]
      _ = (split b.toList ++ split c.toList).foldl (Course.step (a.startsWith "/"))
            ((split a.toList).foldl (Course.step (a.startsWith "/")) .start) := by
          rw [Course.foldl_step, leads, ← Course.foldl_step]
      _ = (split c.toList).foldl (Course.step (a.startsWith "/")) (joined a b) := by
          rw [joined, joinRooted_of_relative relative, List.foldl_append, List.foldl_append]
      _ = joined (join a b) c := by
          rw [← course_join a b, course, outer, joined, joinRooted_of_relative relative', outer,
            List.foldl_append]

section Walk

variable {place : List (List Char)}

theorem visit_nil (place : List (List Char)) : visit place [] = place :=
  if_pos (Or.inl rfl)

theorem foldl_step_visit (segments : List (List Char)) :
    segments.foldl (Course.step true) ⟨0, place⟩ = ⟨0, segments.foldl visit place⟩ := by
  induction segments generalizing place with
  | nil => rfl
  | cons segment segments ih =>
    have one : Course.step true ⟨0, place⟩ segment = ⟨0, visit place segment⟩ := by
      unfold Course.step visit
      split_ifs with nothing upward bare root
      · rfl
      · obtain rfl : place = [] := bare
        rfl
      · exact absurd rfl root
      · rfl
      · rfl
    rw [List.foldl_cons, one, ih, List.foldl_cons]

/-- Walking a join is walking along the segments of both parts. -/
theorem foldl_visit_join (fromRoot : joinRooted dir.toList rest.toList = true → place = []) :
    (split (join dir rest).toList).foldl visit place =
      (split dir.toList ++ split rest.toList).foldl visit place := by
  have leads : (split (join dir rest).toList).foldl (Course.step (joinRooted dir.toList rest.toList))
      .start = joined dir rest := by
    rw [← course_join, course, startsWith_join]
  rw [joined] at leads
  have same : (split (join dir rest).toList).foldl (Course.step true) ⟨0, place⟩ =
      (split dir.toList ++ split rest.toList).foldl (Course.step true) ⟨0, place⟩ := by
    cases rooted : joinRooted dir.toList rest.toList with
    | true =>
      rw [rooted] at leads
      rw [fromRoot rooted]
      exact leads
    | false =>
      rw [rooted] at leads
      rw [Course.foldl_step, leads, ← Course.foldl_step]
  rw [foldl_step_visit, foldl_step_visit] at same
  exact congrArg Course.down same

theorem walk_unrooted (place : List (List Char)) (path : String) :
    walk place (unrooted path) = (split path.toList).foldl visit place := by
  rw [walk, unrooted_startsWith, unrooted, String.toList_ofList]
  simp only [Bool.false_eq_true, if_false]
  induction path.toList with
  | nil => rfl
  | cons c cs ih =>
    by_cases slash : c = '/'
    · subst slash
      rw [List.dropWhile_cons_of_pos rfl, split, if_pos rfl, List.foldl_cons, visit_nil, ih]
    · rw [List.dropWhile_cons_of_neg (by simpa using slash)]

theorem walk_join (place : List (List Char)) (dir rest : String) :
    walk place (join dir rest) = walk (walk place dir) (if dir = "" then rest else unrooted rest) := by
  have along : walk place (join dir rest) = (split dir.toList ++ split rest.toList).foldl visit
      (if joinRooted dir.toList rest.toList then [] else place) := by
    rw [walk, startsWith_join]
    exact foldl_visit_join fun rooted => if_pos rooted
  rw [along]
  by_cases empty : dir = ""
  · subst empty
    rw [if_pos rfl, joinRooted_empty]
    rfl
  · rw [if_neg empty, joinRooted_of_given empty, List.foldl_append, walk_unrooted, walk]

end Walk

/-- A join is canonical, is rooted as its parts are, and is not changed by joining nothing to it. It
leads from every place to where its parts lead one after the other, so that relative parts may be put
together in any order: the directory of a rule is joined before the base of a storage or after it. -/
theorem join_cleans_in_place :
    (∀ dir rest, IsCanonical (join dir rest) ∧
      ((join dir rest).startsWith "/" = true ↔
        dir.startsWith "/" = true ∨ dir = "" ∧ rest.startsWith "/" = true) ∧
      join "" (join dir rest) = join dir rest ∧ join (join dir rest) "" = join dir rest ∧
      ∀ place, walk place (join dir rest) =
        walk (walk place dir) (if dir = "" then rest else unrooted rest)) ∧
    (∀ a b c, b.startsWith "/" = false → c.startsWith "/" = false →
      join a (join b c) = join (join a b) c) ∧
    ∀ name kind base number (rule : Rule) path, rule.dir.startsWith "/" = false →
      path.startsWith "/" = false →
      (Storage.backend name kind base number).locate (rule.relativePath path) =
        join (join base rule.dir) path := by
  refine ⟨fun dir rest => ⟨isCanonical_join dir rest, ?_, (join_empty dir rest).1,
    (join_empty dir rest).2, fun place => walk_join place dir rest⟩,
    fun a b c => join_assoc a, fun name kind base number rule path => join_assoc base⟩
  rw [startsWith_join, joinRooted_iff]

/-- Double dots are taken back across the seam of the two parts, and the rest of them stays. -/
example : join "a/b/.." "../../x.png" = "../x.png" := by decide +kernel

end Courier.Path
