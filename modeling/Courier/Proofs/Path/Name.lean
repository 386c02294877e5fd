import Courier.Proofs.Path.Course

/-! Names of single things. A name below a directory leads to a place in the directory itself, different
names lead to different places, and a name that is joined to a path is a child of the cleaned path. -/
namespace Courier.Path

/-- One segment that is no dots. -/
structure IsName (name : String) : Prop where
  given : name.toList ≠ []
  whole : '/' ∉ name.toList
  not_dot : name.toList ≠ ['.']
  not_dots : name.toList ≠ dotDot

theorem split_eq_singleton {cs : List Char} (whole : '/' ∉ cs) : split cs = [cs] := by
  induction cs with
  | nil => rfl
  | cons c cs ih =>
    have hc : c ≠ '/' := fun slash => whole (slash ▸ List.mem_cons_self)
    have hs : split cs = [cs] := ih fun mem => whole (List.mem_cons_of_mem c mem)
    simp only [split, if_neg hc, hs]

namespace IsName

variable {name other : String}

theorem relative (h : IsName name) : name.startsWith "/" = false := by
  rw [Bool.eq_false_iff, ne_eq, startsWith_slash]
  rintro ⟨rest, hr⟩
  exact h.whole (by rw [hr]; exact List.mem_cons_self)

theorem course (h : IsName name) : course name = ⟨0, [name.toList]⟩ := by
  have nothing : ¬ (name.toList = [] ∨ name.toList = ['.']) :=
    fun empty => empty.elim h.given h.not_dot
  rw [Path.course, split_eq_singleton h.whole, List.foldl_cons, List.foldl_nil, Course.step,
    if_neg nothing, if_neg h.not_dots]
  rfl

theorem below_injective (base : String) (h : IsName name) (ho : IsName other)
    (same : below base name = below base other) : name = other := by
  simp only [below, h.relative, ho.relative, Bool.false_eq_true, if_false] at same
  split at same <;> exact String.append_right_inj _ |>.mp same

end IsName

theorem mem_push {rooted : Bool} {kept : List (List Char)} {segment s : List Char}
    (hs : s ∈ push rooted kept segment) : s ∈ kept ∨ s = segment ∧ segment ≠ [] := by
  rw [push.eq_def] at hs
  by_cases nothing : segment = [] ∨ segment = ['.']
  · rw [if_pos nothing] at hs
    exact Or.inl hs
  rw [if_neg nothing] at hs
  have given : segment ≠ [] := fun empty => nothing (Or.inl empty)
  have more (hm : s ∈ segment :: kept) : s ∈ kept ∨ s = segment ∧ segment ≠ [] :=
    (List.mem_cons.mp hm).elim (fun same => Or.inr ⟨same, given⟩) Or.inl
  by_cases upward : segment = dotDot
  · rw [if_pos upward] at hs
    cases kept with
    | nil => cases rooted <;> simp_all
    | cons last before =>
      simp only at hs
      split_ifs at hs with named root
      · exact Or.inl (List.mem_cons_of_mem _ hs)
      · exact Or.inl hs
      · exact more hs
  · rw [if_neg upward] at hs
    exact more hs

theorem mem_clean {rooted : Bool} {segments : List (List Char)} {s : List Char}
    (hs : s ∈ clean rooted segments) : s ∈ segments ∧ s ≠ [] := by
  rw [clean, List.mem_reverse] at hs
  induction segments using List.reverseRecOn with
  | nil => exact absurd hs List.not_mem_nil
  | append_singleton segments segment ih =>
    rw [List.foldl_append, List.foldl_cons, List.foldl_nil] at hs
    rcases mem_push hs with earlier | ⟨rfl, given⟩
    · obtain ⟨mem, given⟩ := ih earlier
      exact ⟨List.mem_append_left _ mem, given⟩
    · exact ⟨List.mem_append_right _ List.mem_cons_self, given⟩

theorem slash_not_mem_split {cs s : List Char} (hs : s ∈ split cs) : '/' ∉ s := by
  induction cs generalizing s with
  | nil =>
    rw [List.mem_singleton.mp hs]
    exact List.not_mem_nil
  | cons c cs ih =>
    unfold split at hs
    split_ifs at hs with slash
    · rcases List.mem_cons.mp hs with rfl | hs
      · exact List.not_mem_nil
      · exact ih hs
    · obtain ⟨first, others, hc⟩ := List.exists_cons_of_ne_nil (split_ne_nil cs)
      rw [hc] at hs ih
      rcases List.mem_cons.mp hs with rfl | hs
      · have whole : '/' ∉ first := ih List.mem_cons_self
        simp [whole, Ne.symm slash]
      · exact ih (List.mem_cons_of_mem _ hs)

theorem intercalate_concat (sep last : List Char) {front : List (List Char)} (given : front ≠ []) :
    List.intercalate sep (front ++ [last]) = List.intercalate sep front ++ (sep ++ last) := by
  induction front with
  | nil => exact absurd rfl given
  | cons first rest ih =>
    by_cases single : rest = []
    · rw [single, List.singleton_append, List.intercalate_cons_cons, List.intercalate_singleton,
        List.intercalate_singleton, List.append_assoc]
    · rw [List.cons_append, List.intercalate_cons_of_ne_nil (by simp),
        List.intercalate_cons_of_ne_nil single, ih single]
      simp only [List.append_assoc]

section Render

variable {rooted : Bool} {kept : List (List Char)}

theorem render_concat (last : List Char) (given : kept ≠ []) :
    render rooted (kept ++ [last]) = render rooted kept ++ '/' :: last := by
  have hi := intercalate_concat ['/'] last given
  cases rooted <;> simp [render, hi]

theorem suffix_render (front : List (List Char)) (last : List Char) :
    last <:+ render rooted (front ++ [last]) := by
  by_cases single : front = []
  · subst single
    cases rooted
    · simp [render]
    · exact ⟨['/'], by simp [render]⟩
  · rw [render_concat last single]
    exact ⟨render rooted front ++ ['/'], by simp⟩

/-- A name below a clean path is one segment more. -/
theorem IsName.below_render {name : String} (h : IsName name)
    (clean : ∀ s ∈ kept, s ≠ [] ∧ '/' ∉ s) : below (String.ofList (render rooted kept)) name =
      String.ofList (render rooted (kept ++ [name.toList])) := by
  have closed : ((String.ofList (render rooted kept)).isEmpty ||
      (String.ofList (render rooted kept)).endsWith "/") = true ↔
      render rooted kept = [] ∨ ∃ front, render rooted kept = front ++ ['/'] := by
    rw [Bool.or_eq_true, String.isEmpty_iff, ← String.toList_eq_nil_iff, endsWith_slash,
      String.toList_ofList]
  rw [← String.toList_inj, String.toList_ofList, below, if_neg (by simp [h.relative])]
  rcases List.eq_nil_or_concat kept with rfl | ⟨front, last, rfl⟩
  · -- Nothing is left of the path but its root, if it has one.
    have bare : render rooted [] = [] ∨ ∃ front, render rooted [] = front ++ ['/'] := by
      cases rooted
      · exact Or.inl rfl
      · exact Or.inr ⟨[], rfl⟩
    rw [if_pos (closed.mpr bare), String.toList_append, String.toList_ofList]
    cases rooted <;> simp [render]
  · rw [List.concat_eq_append] at clean closed ⊢
    obtain ⟨given, whole⟩ := clean last (by simp)
    obtain ⟨before, hb⟩ : last <:+ render rooted (front ++ [last]) := suffix_render front last
    have hopen : ¬ (render rooted (front ++ [last]) = [] ∨
        ∃ front', render rooted (front ++ [last]) = front' ++ ['/']) := by
      rw [← hb]
      rintro (empty | ⟨front', same⟩)
      · exact given (List.append_eq_nil_iff.mp empty).2
      · have tip : (before ++ last).getLast? = some '/' := by rw [same]; simp
        rw [List.getLast?_append, List.getLast?_eq_some_getLast given, Option.some_or] at tip
        exact whole (Option.some.inj tip ▸ List.getLast_mem given)
    rw [if_neg (closed.not.mpr hopen), render_concat name.toList (by simp)]
    simp

end Render

theorem IsName.join {name : String} (h : IsName name) (path : String) :
    join path name = below (join path "") name := by
  have nothing : ¬ (name.toList = [] ∨ name.toList = ['.']) :=
    fun empty => empty.elim h.given h.not_dot
  have rooted : joinRooted path.toList name.toList = joinRooted path.toList [] := by
    have hn : name.toList.head? ≠ some '/' := fun first => h.whole (List.mem_of_head? first)
    simp [joinRooted, hn]
  have one_more (rooted : Bool) : clean rooted (split path.toList ++ split name.toList) =
      clean rooted (split path.toList) ++ [name.toList] := by
    rw [split_eq_singleton h.whole, clean, List.foldl_append, List.foldl_cons, List.foldl_nil,
      push.eq_def, if_neg nothing, if_neg h.not_dots, List.reverse_cons, clean]
  have none_more (rooted : Bool) : clean rooted (split path.toList ++ split []) =
      clean rooted (split path.toList) := by
    simp [split, clean, push]
  have kept (rooted : Bool) : ∀ s ∈ clean rooted (split path.toList), s ≠ [] ∧ '/' ∉ s := by
    intro s hs
    obtain ⟨mem, given⟩ := mem_clean hs
    exact ⟨given, slash_not_mem_split mem⟩
  have empty : ("" : String).toList = [] := rfl
  rw [Path.join, Path.join, joinChars, joinChars, rooted, one_more, empty, none_more,
    h.below_render (kept _)]

end Courier.Path
