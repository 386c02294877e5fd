import Courier.Proofs.FileTree.Writing

/-! What operations on one path leave alone: no directory goes, and no file changes but the one that
the path names. -/
namespace Courier.FileTree

variable {fs m fs' : FileTree} {path : String} {place : Place} {content : Bytes}

/-- Whether a path names a place as that of a file. -/
def Names (fs : FileTree) (path : String) (place : Place) : Prop :=
  ∃ t, fs.target path = .ok t ∧ t.place = place ∧ t.asDirectory = false

/-- Whether a place holds a file of some content. -/
def Holds (fs : FileTree) (place : Place) (content : Bytes) : Prop :=
  fs.find? place = some (.file content)

theorem Names.unique {other : Place} (h : fs.Names path place) (h' : fs.Names path other) :
    place = other := by
  obtain ⟨t, ht, rfl, -⟩ := h
  obtain ⟨t', ht', rfl, -⟩ := h'
  rw [Except.ok.inj (ht.symm.trans ht')]

theorem LeadsTo.names (leads : fs.LeadsTo path place) : fs.Names path place :=
  leads.target

theorem lookup_eq_file : fs.lookup path = .ok (place, .file content) ↔
    fs.Names path place ∧ fs.Holds place content := by
  constructor
  · intro found
    refine ⟨(lookup_leadsTo found).names, ?_⟩
    unfold lookup at found
    cases ht : fs.target path with
    | error e => simp [ht, bind, Except.bind] at found
    | ok t =>
      rcases hd : fs.find? t.place with _ | (_ | old) <;>
        simp only [ht, hd, bind, Except.bind] at found
      · contradiction
      · simp at found
      · split_ifs at found
        obtain ⟨rfl, hc⟩ := Prod.mk.inj (Except.ok.inj found)
        rw [Holds, hd, hc]
  · rintro ⟨⟨t, ht, rfl, hf⟩, holds⟩
    rw [Holds] at holds
    simp [lookup, ht, holds, hf, bind, Except.bind]

theorem read_eq_holds : fs.read path = .ok content ↔
    ∃ place, fs.Names path place ∧ fs.Holds place content := by
  simp only [read_eq_ok, lookup_eq_file]

/-- What becomes of a tree by work on the file that a path names. -/
structure Spares (path : String) (fs fs' : FileTree) : Prop where
  home : fs'.home = fs.home
  directories : ∀ p, fs.isDirectory p = true → fs'.isDirectory p = true
  files : ∀ p, ¬ fs'.Names path p → ∀ content, fs'.Holds p content ↔ fs.Holds p content

theorem Spares.names {other : String} (spares : Spares path fs fs') (h : fs.Names other place) :
    fs'.Names other place := by
  obtain ⟨t, ht, rest⟩ := h
  exact ⟨t, target_mono spares.home spares.directories ht, rest⟩

theorem Spares.refl (path : String) (fs : FileTree) : Spares path fs fs where
  home := rfl
  directories _ h := h
  files _ _ _ := Iff.rfl

theorem Spares.trans (first : Spares path fs m) (second : Spares path m fs') :
    Spares path fs fs' where
  home := second.home.trans first.home
  directories p h := second.directories p (first.directories p h)
  files p other content := (second.files p other content).trans
    (first.files p (fun h => other (second.names h)) content)

/-- A change at the place that a path names, by which no directory goes. -/
theorem Spares.of_names (named : fs.Names path place) (home : fs'.home = fs.home)
    (directories : ∀ p, fs.isDirectory p = true → fs'.isDirectory p = true)
    (elsewhere : ∀ p, p ≠ place → fs'.find? p = fs.find? p) : Spares path fs fs' where
  home := home
  directories := directories
  files p other content := by
    have hp : p ≠ place := by
      rintro rfl
      obtain ⟨t, ht, rest⟩ := named
      exact other ⟨t, target_mono home directories ht, rest⟩
    rw [Holds, Holds, elsewhere p hp]

theorem LeadsTo.spares_put (leads : fs.LeadsTo path place) (content : Bytes) :
    Spares path fs (fs.put place (.file content)) :=
  .of_names leads.names rfl
    (fun p hp => (isDirectory_put leads.named leads.free p).trans hp)
    fun _ other => find?_put_of_ne fs _ other

theorem spares_write {made : FileTree} (h : fs.write path content = .ok made) :
    Spares path fs made := by
  unfold write at h
  cases hw : fs.writable path with
  | error e => simp [hw, bind, Except.bind] at h
  | ok place =>
    simp only [hw, bind, Except.bind, pure, Except.pure, Except.ok.injEq] at h
    rw [← h]
    exact (writable_leadsTo hw).spares_put content

theorem spares_append (fs : FileTree) (path : String) (more : Bytes) :
    Spares path fs (fs.append path more) := by
  unfold append
  split
  · next place old found => exact (lookup_leadsTo found).spares_put (old ++ more)
  · exact .refl path fs

theorem spares_makeDirectory {made : FileTree} {other : String}
    (h : fs.makeDirectory other = .ok made) (path : String) : Spares path fs made := by
  unfold makeDirectory at h
  cases ht : fs.target other with
  | error e => simp [ht, bind, Except.bind] at h
  | ok t =>
    simp only [ht, bind, Except.bind] at h
    split_ifs at h with taken
    simp only [Bool.or_eq_true, Bool.not_eq_true', not_or, Option.not_isSome_iff_eq_none] at taken
    have named : t.place ≠ [] := by
      intro root
      have hr := taken.2
      rw [root, find?_root] at hr
      contradiction
    rw [← Except.ok.inj h]
    refine ⟨rfl, fun p hp => ?_, fun p _ content => ?_⟩
    · by_cases same : p = t.place
      · rw [isDirectory, same, find?_put_self fs _ named]
      · rwa [isDirectory, find?_put_of_ne fs _ same]
    · by_cases same : p = t.place
      · rw [Holds, Holds, same, find?_put_self fs _ named, taken.2]
        simp
      · rw [Holds, Holds, find?_put_of_ne fs _ same]

theorem LeadsTo.spares_erase (leads : fs.LeadsTo path place) : Spares path fs (fs.erase place) := by
  refine .of_names leads.names rfl (fun p hp => ?_) fun _ other => find?_erase_of_ne fs other
  have other : p ≠ place := by
    rintro rfl
    rw [leads.free] at hp
    contradiction
  rwa [isDirectory, find?_erase_of_ne fs other]

end Courier.FileTree
