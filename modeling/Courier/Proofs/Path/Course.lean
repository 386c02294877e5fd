import Courier.Path
import Mathlib.Data.List.Induction

/-! Where a path leads, seen from where it starts: so many directories up, and from there down by
names. Going on by a relative path takes back as many names as that path climbs, and then adds the
names that it goes down by. -/
namespace Courier.Path

structure Course where
  /-- Directories above the one where the path starts. -/
  up : Nat
  /-- Names of the directories on the way down, and of the last thing. -/
  down : List (List Char)
  deriving DecidableEq, Repr

namespace Course

def start : Course := ⟨0, []⟩

def step (rooted : Bool) (c : Course) (segment : List Char) : Course :=
  if segment = [] ∨ segment = ['.'] then c
  else if segment = dotDot then
    if c.down = [] then { c with up := if rooted then c.up else c.up + 1 }
    else { c with down := c.down.dropLast }
  else { c with down := c.down ++ [segment] }

def append (rooted : Bool) (c d : Course) : Course where
  up := c.up + if rooted then 0 else d.up - c.down.length
  down := c.down.take (c.down.length - d.up) ++ d.down

variable {rooted : Bool} {c d : Course}

@[simp] theorem step_nil : c.step rooted [] = c := by simp [step]

@[simp] theorem append_start : c.append rooted start = c := by simp [append, start]

theorem append_step (segment : List Char) :
    c.append rooted (d.step false segment) = (c.append rooted d).step rooted segment := by
  unfold step
  by_cases nothing : segment = [] ∨ segment = ['.']
  · rw [if_pos nothing, if_pos nothing]
  rw [if_neg nothing, if_neg nothing]
  by_cases upward : segment = dotDot
  · rw [if_pos upward, if_pos upward]
    by_cases bare : d.down = []
    · -- The names of `d` are used up, so that one of `c` is taken back, if there still is one.
      rw [if_pos bare]
      by_cases above : c.down.length ≤ d.up
      · have hz : c.down.length - d.up = 0 := by omega
        have hz' : c.down.length - (d.up + 1) = 0 := by omega
        have hd : (c.append rooted d).down = [] := by simp [append, bare, hz]
        rw [if_pos hd]
        simp only [append, bare, hz, hz', Bool.false_eq_true, if_false, Course.mk.injEq, and_true]
        split <;> omega
      · have hd : (c.append rooted d).down ≠ [] := by
          intro h
          have hl := congrArg List.length h
          simp only [append, bare, List.append_nil, List.length_take, List.length_nil] at hl
          omega
        rw [if_neg hd]
        simp only [append, bare, List.append_nil, Bool.false_eq_true, if_false, Course.mk.injEq]
        refine ⟨by split <;> omega, ?_⟩
        rw [List.dropLast_eq_take, List.take_take, List.length_take]
        congr 1
        omega
    · have hd : (c.append rooted d).down ≠ [] := by simp [append, bare]
      rw [if_neg bare, if_neg hd]
      simp only [append, List.dropLast_append_of_ne_nil bare]
  · rw [if_neg upward, if_neg upward]
    simp only [append, List.append_assoc]

theorem foldl_step (segments : List (List Char)) :
    segments.foldl (step rooted) c = c.append rooted (segments.foldl (step false) start) := by
  induction segments using List.reverseRecOn with
  | nil => simp
  | append_singleton segments segment ih =>
    simp only [List.foldl_append, List.foldl_cons, List.foldl_nil, ih, append_step]

end Course

def course (path : String) : Course :=
  (split path.toList).foldl (Course.step (path.startsWith "/")) .start

theorem split_ne_nil (cs : List Char) : split cs ≠ [] := by
  cases cs with
  | nil => simp [split]
  | cons c cs =>
    unfold split
    split
    · simp
    · split <;> simp

theorem split_append_slash (front back : List Char) :
    split (front ++ '/' :: back) = split front ++ split back := by
  induction front with
  | nil => simp [split]
  | cons c front ih =>
    by_cases slash : c = '/'
    · simp [split, slash, ih]
    · obtain ⟨first, others, hs⟩ := List.exists_cons_of_ne_nil (split_ne_nil front)
      simp [split, slash, ih, hs]

theorem startsWith_slash (path : String) :
    path.startsWith "/" = true ↔ ∃ rest, path.toList = '/' :: rest := by
  rw [String.startsWith_string_iff]
  exact exists_congr fun rest => eq_comm

theorem endsWith_slash (path : String) :
    path.endsWith "/" = true ↔ ∃ front, path.toList = front ++ ['/'] := by
  rw [String.endsWith_eq_endsWith_toSlice, String.Slice.endsWith_string_iff, String.copy_toSlice]
  exact exists_congr fun front => eq_comm

/-- A path without the slashes that it begins with. -/
def unrooted (path : String) : String :=
  String.ofList (path.toList.dropWhile (· == '/'))

theorem unrooted_startsWith (path : String) : (unrooted path).startsWith "/" = false := by
  rw [Bool.eq_false_iff, ne_eq, startsWith_slash, unrooted, String.toList_ofList]
  rintro ⟨rest, h⟩
  have hp := List.head?_dropWhile_not (· == '/') path.toList
  simp [h] at hp

theorem startsWith_append {base : String} (rest : String) (given : base ≠ "") :
    (base ++ rest).startsWith "/" = base.startsWith "/" := by
  rw [Bool.eq_iff_iff, startsWith_slash, startsWith_slash, String.toList_append]
  cases h : base.toList with
  | nil => exact absurd (String.toList_eq_nil_iff.mp h) given
  | cons c cs => simp

theorem below_startsWith (base : String) {rest : String} (relative : rest.startsWith "/" = false) :
    (below base rest).startsWith "/" = base.startsWith "/" := by
  unfold below
  rw [if_neg (by simp [relative])]
  by_cases empty : base = ""
  · subst empty
    have hs : ("" : String).startsWith "/" = false := by decide
    simp [relative, hs]
  · split
    · exact startsWith_append rest empty
    · rw [String.append_assoc]
      exact startsWith_append _ empty

/-- A relative path below a base goes on from where the base leads. -/
theorem course_below (base : String) {rest : String} (relative : rest.startsWith "/" = false) :
    course (below base rest) = (course base).append (base.startsWith "/") (course rest) := by
  have hrest : course rest = (split rest.toList).foldl (Course.step false) .start := by
    rw [course, relative]
  rw [hrest, ← Course.foldl_step, course]
  unfold below
  rw [if_neg (by simp [relative])]
  by_cases empty : base = ""
  · subst empty
    have hs : ("" : String).startsWith "/" = false := by decide
    simp [course, relative, split, hs]
  · by_cases slash : base.endsWith "/" = true
    · obtain ⟨front, hf⟩ := (endsWith_slash base).mp slash
      rw [if_pos (by simp [slash]), startsWith_append rest empty, String.toList_append, hf]
      rw [List.append_assoc, List.singleton_append, split_append_slash, course, hf,
        split_append_slash, List.foldl_append, List.foldl_append]
      simp [split]
    · rw [if_neg (by simp [slash, empty]), String.append_assoc, startsWith_append _ empty, course,
        ← List.foldl_append, ← split_append_slash]
      simp

end Courier.Path
