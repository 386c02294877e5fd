import Courier.Proofs.FileTree.Standing

/-! What a path shows of a tree is all that work on its file depends on. Work on one file of a directory
changes nothing of what the other names of the directory show, and a directory that has been made once
stays made. -/
namespace Courier.FileTree

open Courier.Path (IsName below)

variable {fs other fs' : FileTree} {path dir name sibling : String} {place : Place} {content : Bytes}

/-- What a path shows: where it leads, and what is there. -/
def sight (fs : FileTree) (path : String) : Except OsError (Target × Option Entry) :=
  (fs.target path).map fun t => (t, fs.find? t.place)

section Congr

variable (same : fs.sight path = other.sight path)
include same

theorem target_congr : fs.target path = other.target path := by
  have targets := congrArg (Except.map Prod.fst) same
  unfold sight at targets
  cases hf : fs.target path <;> cases ho : other.target path <;> simp_all [Except.map]

theorem find?_congr {t : Target} (ht : fs.target path = .ok t) :
    fs.find? t.place = other.find? t.place := by
  have ho : other.target path = .ok t := (target_congr same).symm.trans ht
  simp only [sight, ht, ho, Except.map] at same
  exact (Prod.mk.inj (Except.ok.inj same)).2

theorem writable_congr : fs.writable path = other.writable path := by
  unfold writable
  rw [← target_congr same]
  cases ht : fs.target path with
  | error e => rfl
  | ok t => simp only [bind, Except.bind, find?_congr same ht]

theorem lookup_congr : fs.lookup path = other.lookup path := by
  unfold lookup
  rw [← target_congr same]
  cases ht : fs.target path with
  | error e => rfl
  | ok t => simp only [bind, Except.bind, find?_congr same ht]

theorem read_congr : fs.read path = other.read path := by
  rw [read, read, lookup_congr same]

end Congr

theorem LeadsTo.sight_put (leads : fs.LeadsTo path place) (content : Bytes) :
    (fs.put place (.file content)).sight path =
      (fs.target path).map fun t => (t, some (.file content)) := by
  obtain ⟨t, ht, rfl, -⟩ := leads.target
  have home : (fs.put t.place (.file content)).home = fs.home := rfl
  have later : (fs.put t.place (.file content)).target path = .ok t :=
    target_mono home (fun p => (isDirectory_put leads.named leads.free p).trans) ht
  rw [sight, later, ht, Except.map, Except.map, find?_put_self fs _ leads.named]

/-- Where a path shows the same, a write comes to the same, and the path shows the same then. -/
theorem write_congr (same : fs.sight path = other.sight path) (content : Bytes) :
    (∃ e, fs.write path content = .error e ∧ other.write path content = .error e) ∨
      ∃ made made', fs.write path content = .ok made ∧ other.write path content = .ok made' ∧
        made.sight path = made'.sight path := by
  have writable := writable_congr same
  unfold write
  cases hw : fs.writable path with
  | error e => exact Or.inl ⟨e, rfl, by rw [← writable, hw]; rfl⟩
  | ok place =>
    have leads := writable_leadsTo hw
    have leads' := writable_leadsTo (writable.symm.trans hw)
    refine Or.inr ⟨_, _, rfl, by rw [← writable, hw]; rfl, ?_⟩
    rw [leads.sight_put, leads'.sight_put, target_congr same]

theorem append_congr (same : fs.sight path = other.sight path) (more : Bytes) :
    (fs.append path more).sight path = (other.append path more).sight path := by
  unfold append
  rw [← lookup_congr same]
  cases found : fs.lookup path with
  | error e => exact same
  | ok at_place =>
    obtain ⟨place, _ | old⟩ := at_place
    · exact same
    · have leads := lookup_leadsTo found
      have leads' := lookup_leadsTo ((lookup_congr same).symm.trans found)
      show (fs.put place (.file (old ++ more))).sight path = _
      rw [leads.sight_put, leads'.sight_put, target_congr same]

/-! ### Work on one file -/

/-- Work on the file of a path: no directory comes or goes, and if anything changes it is at the place
where the path leads. -/
structure Amends (path : String) (fs fs' : FileTree) : Prop where
  home : fs'.home = fs.home
  directories : ∀ p, fs'.isDirectory p = fs.isDirectory p
  elsewhere : fs' = fs ∨ ∃ place, fs.LeadsTo path place ∧ ∀ p, p ≠ place → fs'.find? p = fs.find? p

theorem Amends.refl (path : String) (fs : FileTree) : Amends path fs fs :=
  ⟨rfl, fun _ => rfl, Or.inl rfl⟩

theorem LeadsTo.amends_put (leads : fs.LeadsTo path place) (content : Bytes) :
    Amends path fs (fs.put place (.file content)) where
  home := rfl
  directories := isDirectory_put leads.named leads.free
  elsewhere := Or.inr ⟨place, leads, fun _ other => find?_put_of_ne fs _ other⟩

theorem LeadsTo.amends_erase (leads : fs.LeadsTo path place) : Amends path fs (fs.erase place) where
  home := rfl
  directories p := by
    by_cases here : p = place
    · rw [here, leads.free, isDirectory, find?_erase_self fs leads.named]
    · rw [isDirectory, isDirectory, find?_erase_of_ne fs here]
  elsewhere := Or.inr ⟨place, leads, fun _ other => find?_erase_of_ne fs other⟩

theorem amends_write (written : fs.write path content = .ok fs') : Amends path fs fs' := by
  unfold write at written
  cases hw : fs.writable path with
  | error e => simp [hw, bind, Except.bind] at written
  | ok place =>
    simp only [hw, bind, Except.bind, pure, Except.pure, Except.ok.injEq] at written
    rw [← written]
    exact (writable_leadsTo hw).amends_put content

theorem amends_append (fs : FileTree) (path : String) (more : Bytes) :
    Amends path fs (fs.append path more) := by
  unfold append
  split
  · next place old found => exact (lookup_leadsTo found).amends_put (old ++ more)
  · exact .refl path fs

theorem amends_remove (removed : fs.remove path = .ok fs') : Amends path fs fs' := by
  unfold remove at removed
  cases found : fs.lookup path with
  | error e => simp [found, bind, Except.bind] at removed
  | ok at_place =>
    obtain ⟨place, _ | old⟩ := at_place
    · simp [found, bind, Except.bind] at removed
    · simp only [found, bind, Except.bind, Except.ok.injEq] at removed
      rw [← removed]
      exact (lookup_leadsTo found).amends_erase

/-! ### Names of one directory -/

theorem segment_of_isName (named : IsName name) : name ≠ "" ∧ name ≠ "." ∧ name ≠ ".." := by
  refine ⟨fun same => named.given ?_, fun same => named.not_dot ?_, fun same => named.not_dots ?_⟩ <;>
    rw [same] <;> rfl

theorem follow_name (named : IsName name) (fs : FileTree) (here : Place) : fs.follow here [name] =
    if fs.isDirectory here = false then
      .error (if (fs.find? here).isSome then .notDirectory else .noEntry)
    else if name.utf8ByteSize > longestName then .error .nameTooLong
    else .ok ⟨here ++ [name], false, true⟩ := by
  obtain ⟨given, dot, dots⟩ := segment_of_isName named
  simp [follow, given, dot, dots]

/-- The last segment of a path that leads somewhere can be any other name. -/
theorem follow_sibling (named : IsName name) (named' : IsName sibling) {here : Place}
    {segments : List String} {t : Target} (leads : fs.follow here (segments ++ [name]) = .ok t) :
    (∃ t', fs.follow here (segments ++ [sibling]) = .ok t') ∨
      fs.follow here (segments ++ [sibling]) = .error .nameTooLong := by
  obtain ⟨given, -, -⟩ := segment_of_isName named
  obtain ⟨given', -, -⟩ := segment_of_isName named'
  induction segments generalizing here with
  | nil =>
    rw [List.nil_append, follow_name named] at leads
    rw [List.nil_append, follow_name named']
    split_ifs at leads with outside
    rw [if_neg outside]
    by_cases long : sibling.utf8ByteSize > longestName
    · exact Or.inr (if_pos long)
    · exact Or.inl ⟨_, if_neg long⟩
  | cons segment rest ih =>
    rw [List.cons_append] at leads ⊢
    unfold follow at leads ⊢
    -- A name follows, so that the segment is neither the last one nor one before closing slashes.
    have more (last : String) : (rest ++ [last]).isEmpty = false := by simp
    have open_name : (rest ++ [name]).all (· == "") = false := by simp [given]
    have open_sibling : (rest ++ [sibling]).all (· == "") = false := by simp [given']
    simp only [more, open_name, open_sibling, Bool.false_eq_true, if_false] at leads ⊢
    split_ifs at leads ⊢ with outside skip upward long
    · exact ih leads
    · exact ih leads
    · exact ih leads

theorem split_below (dir : String) : ∃ segments, ∀ name, IsName name →
    (Path.split (below dir name).toList).map String.ofList = segments ++ [name] := by
  have single {name : String} (named : IsName name) :
      (Path.split name.toList).map String.ofList = [name] := by
    simp [Path.split_eq_singleton named.whole]
  unfold below
  by_cases empty : dir = ""
  · refine ⟨[], fun name named => ?_⟩
    rw [if_neg (by simp [named.relative]), if_pos (by simp [empty]), empty, String.empty_append,
      single named, List.nil_append]
  · by_cases slash : dir.endsWith "/" = true
    · obtain ⟨front, hf⟩ := (Path.endsWith_slash dir).mp slash
      refine ⟨(Path.split front).map String.ofList, fun name named => ?_⟩
      rw [if_neg (by simp [named.relative]), if_pos (by simp [slash]), String.toList_append, hf,
        List.append_assoc, List.singleton_append, Path.split_append_slash, List.map_append,
        single named]
    · refine ⟨(Path.split dir.toList).map String.ofList, fun name named => ?_⟩
      have text : (dir ++ "/" ++ name).toList = dir.toList ++ '/' :: name.toList := by simp
      rw [if_neg (by simp [named.relative]), if_neg (by simp [empty, slash]), text,
        Path.split_append_slash, List.map_append, single named]

/-- Where a name of a directory leads somewhere, the others lead where they did as long as the
directories are the same. -/
theorem follow_sibling_congr (directories : ∀ p, fs'.isDirectory p = fs.isDirectory p)
    (named : IsName name) (named' : IsName sibling) {here : Place} {segments : List String}
    {t : Target} (leads : fs.follow here (segments ++ [name]) = .ok t) :
    fs'.follow here (segments ++ [sibling]) = fs.follow here (segments ++ [sibling]) := by
  have stay (p : Place) : fs.isDirectory p = true → fs'.isDirectory p = true := (directories p).trans
  have back (p : Place) : fs'.isDirectory p = true → fs.isDirectory p = true :=
    (directories p).symm.trans
  obtain ⟨t', there⟩ | long := follow_sibling named named' leads
  · rw [there, follow_mono stay there]
  · obtain ⟨t', there⟩ | long' := follow_sibling named named' (follow_mono stay leads)
    · rw [follow_mono back there] at long
      contradiction
    · rw [long, long']

theorem target_sibling (home : fs'.home = fs.home)
    (directories : ∀ p, fs'.isDirectory p = fs.isDirectory p) (named : IsName name)
    (named' : IsName sibling) {t : Target} (leads : fs.target (below dir name) = .ok t) :
    fs'.target (below dir sibling) = fs.target (below dir sibling) := by
  obtain ⟨segments, split⟩ := split_below dir
  have start : (below dir sibling).startsWith "/" = (below dir name).startsWith "/" := by
    rw [Path.below_startsWith dir named.relative, Path.below_startsWith dir named'.relative]
  unfold target at leads ⊢
  rw [split sibling named', start, home]
  rw [split name named] at leads
  split_ifs at leads ⊢ <;> first | rfl | exact follow_sibling_congr directories named named' leads

theorem Amends.sight_sibling (amends : Amends (below dir name) fs fs') (named : IsName name)
    (named' : IsName sibling) (apart : sibling ≠ name) :
    fs'.sight (below dir sibling) = fs.sight (below dir sibling) := by
  obtain rfl | ⟨place, leads, elsewhere⟩ := amends.elsewhere
  · rfl
  · have place_eq : place.map String.toList = fs.standing (below dir name) := by
      obtain ⟨t, ht, rfl, -⟩ := leads.target
      exact target_place ht
    obtain ⟨t, ht, -⟩ := leads.target
    rw [sight, sight, target_sibling amends.home amends.directories named named' ht]
    cases ht' : fs.target (below dir sibling) with
    | error e => rfl
    | ok t' =>
      have other : t'.place ≠ place := by
        intro same
        have standing := target_place ht'
        rw [same, place_eq] at standing
        exact apart (fs.standing_below_injective dir named named' standing).symm
      rw [Except.map, Except.map, elsewhere t'.place other]

/-! ### Directories that have been made -/

/-- Whether making a directory would change nothing. -/
def Paved (dir : String) (fs : FileTree) : Prop :=
  fs.pave dir = (.ok (), fs)

theorem leadsToDirectory_iff : fs.leadsToDirectory path = true ↔
    ∃ t, fs.target path = .ok t ∧ fs.isDirectory t.place = true := by
  unfold leadsToDirectory lookup isDirectory
  cases fs.target path with
  | error e => simp [bind, Except.bind]
  | ok t =>
    rcases hd : fs.find? t.place with _ | (_ | content)
    · simp [bind, Except.bind, hd]
    · simp [bind, Except.bind, hd]
    · cases hf : t.asDirectory <;> simp [bind, Except.bind, hd, hf]

theorem paved_of_leadsToDirectory (leads : fs.leadsToDirectory path = true) : Paved path fs := by
  have taken : fs.makeDirectory path = .error .alreadyExists := by
    obtain ⟨t, ht, directory⟩ := leadsToDirectory_iff.mp leads
    have there : (fs.find? t.place).isSome = true := by
      unfold isDirectory at directory
      split at directory
      · next found => rw [found]; rfl
      · contradiction
    simp [makeDirectory, ht, there, bind, Except.bind]
  have ensured : fs.ensureDirectory path = (.ok (), fs) := by
    simp only [ensureDirectory, taken, leads, if_true]
  unfold Paved pave paveUpTo
  split
  · rfl
  · rw [ensured]

theorem makeDirectory_ok {made : FileTree} (h : fs.makeDirectory path = .ok made) :
    made.leadsToDirectory path = true := by
  unfold makeDirectory at h
  cases ht : fs.target path with
  | error e => simp [ht, bind, Except.bind] at h
  | ok t =>
    simp only [ht, bind, Except.bind] at h
    split_ifs at h with taken
    simp only [Bool.or_eq_true, Bool.not_eq_true', not_or, Option.not_isSome_iff_eq_none] at taken
    have named : t.place ≠ [] := by
      intro root
      rw [root, find?_root] at taken
      exact absurd taken.2 (by simp)
    rw [← Except.ok.inj h]
    have directories (p : Place) (hp : fs.isDirectory p = true) :
        (fs.put t.place .directory).isDirectory p = true := by
      by_cases here : p = t.place
      · rw [isDirectory, here, find?_put_self fs _ named]
      · rwa [isDirectory, find?_put_of_ne fs _ here]
    have home : (fs.put t.place .directory).home = fs.home := rfl
    refine leadsToDirectory_iff.mpr ⟨t, target_mono home directories ht, ?_⟩
    rw [isDirectory, find?_put_self fs _ named]

theorem ensureDirectory_ok {made : FileTree} (h : fs.ensureDirectory path = (.ok (), made)) :
    made.leadsToDirectory path = true := by
  unfold ensureDirectory at h
  cases hm : fs.makeDirectory path with
  | error e =>
    simp only [hm, Prod.mk.injEq, ite_eq_left_iff, reduceCtorEq, imp_false, Bool.not_eq_true,
      Bool.not_eq_false] at h
    rw [← h.2]
    exact h.1
  | ok tree =>
    obtain rfl : tree = made := by simpa [hm] using h
    exact makeDirectory_ok hm

theorem paveUpTo_ok {depth : Nat} {made : FileTree} (h : fs.paveUpTo depth path = (.ok (), made)) :
    path.isEmpty = true ∨ made.leadsToDirectory path = true := by
  by_cases empty : path.isEmpty = true
  · exact Or.inl empty
  · refine Or.inr ?_
    unfold paveUpTo at h
    rw [if_neg empty] at h
    split at h
    · -- The parent is made first, and then the directory itself.
      split at h
      · split at h
        · exact ensureDirectory_ok h
        · simp at h
      · simp at h
    · exact ensureDirectory_ok h

theorem paved_iff : Paved dir fs ↔ dir.isEmpty = true ∨ fs.leadsToDirectory dir = true := by
  constructor
  · exact paveUpTo_ok
  · rintro (empty | leads)
    · unfold Paved pave paveUpTo
      rw [if_pos empty]
    · exact paved_of_leadsToDirectory leads

theorem paved_of_pave (made : (fs.pave dir).1 = .ok ()) : Paved dir (fs.pave dir).2 :=
  paved_iff.mpr (paveUpTo_ok (Prod.ext made rfl))

theorem Amends.paved (amends : Amends path fs fs') (paved : Paved dir fs) : Paved dir fs' := by
  rw [paved_iff] at paved ⊢
  refine paved.imp_right fun leads => ?_
  obtain ⟨t, ht, directory⟩ := leadsToDirectory_iff.mp leads
  have same := amends.directories
  exact leadsToDirectory_iff.mpr
    ⟨t, target_mono amends.home (fun p hp => (same p).trans hp) ht, (same _).trans directory⟩

/-- Whether making a directory again comes to the same and changes no more. -/
def Steady (dir : String) (fs : FileTree) : Prop :=
  (fs.pave dir).2.pave dir = fs.pave dir

theorem Paved.steady (paved : Paved dir fs) : Steady dir fs := by
  have once : fs.pave dir = (.ok (), fs) := paved
  rw [Steady, once]
  exact once

/-- Only a directory that cannot be made may fail in another way the next time. -/
theorem steady_of_error (again : ∀ e, (fs.pave dir).1 = .error e →
    (fs.pave dir).2.pave dir = fs.pave dir) : Steady dir fs := by
  cases made : (fs.pave dir).1 with
  | error e => exact again e made
  | ok =>
    have paved : (fs.pave dir).2.pave dir = (.ok (), (fs.pave dir).2) := paved_of_pave made
    exact paved.trans (Prod.ext made.symm rfl)

theorem Steady.pave (steady : Steady dir fs) : Steady dir (fs.pave dir).2 := by
  rw [Steady, show (fs.pave dir).2.pave dir = fs.pave dir from steady]
  exact steady

/-- Whether two trees show the same at a path once a directory has been made. -/
structure Alike (dir path : String) (fs other : FileTree) : Prop where
  made : (fs.pave dir).1 = (other.pave dir).1
  sight : (fs.pave dir).2.sight path = (other.pave dir).2.sight path

theorem Alike.refl (dir path : String) (fs : FileTree) : Alike dir path fs fs :=
  ⟨rfl, rfl⟩

theorem Alike.pave_left (alike : Alike dir path fs other) (steady : Steady dir fs) :
    Alike dir path (fs.pave dir).2 other := by
  have again : (fs.pave dir).2.pave dir = fs.pave dir := steady
  exact ⟨by rw [again]; exact alike.made, by rw [again]; exact alike.sight⟩

theorem alike_iff_of_paved (paved : Paved dir fs) (paved' : Paved dir other) :
    Alike dir path fs other ↔ fs.sight path = other.sight path := by
  have here : fs.pave dir = (.ok (), fs) := paved
  have there : other.pave dir = (.ok (), other) := paved'
  constructor
  · intro alike
    have sight := alike.sight
    rwa [here, there] at sight
  · intro same
    exact ⟨by rw [here, there], by rw [here, there]; exact same⟩

/-- Work on one file of a directory that has been made is nothing to another name of it. -/
theorem Amends.alike (amends : Amends (below dir name) fs fs') (paved : Paved dir fs)
    (named : IsName name) (named' : IsName sibling) (apart : sibling ≠ name)
    (alike : Alike dir (below dir sibling) fs other) : Alike dir (below dir sibling) fs' other := by
  have before : fs.pave dir = (.ok (), fs) := paved
  have after : fs'.pave dir = (.ok (), fs') := amends.paved paved
  obtain ⟨made, sight⟩ := alike
  rw [before] at made sight
  exact ⟨by rw [after]; exact made,
    by rw [after]; exact (amends.sight_sibling named named' apart).trans sight⟩

end Courier.FileTree
