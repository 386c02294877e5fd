import Courier.FileTree
import Mathlib.Tactic.SplitIfs

/-! What is written to a file is what is read from it. Writing to a file makes no path lead elsewhere,
since paths go through directories and a file never takes the place of one. -/
namespace Courier.FileTree

variable {fs fs' : FileTree} {path : String} {place : Place} {content : Bytes}

theorem find?_root (fs : FileTree) : fs.find? [] = some .directory := rfl

theorem find?_eq {p : Place} (named : p ≠ []) :
    fs.find? p = (fs.entries.find? (·.1 == p)).map (·.2) := by
  rw [find?, if_neg (by simpa using named)]

theorem find?_filter_self (entries : List (Place × Entry)) (place : Place) :
    (entries.filter (·.1 != place)).find? (·.1 == place) = none := by
  rw [List.find?_eq_none]
  intro e he
  simpa using (List.mem_filter.mp he).2

theorem find?_filter_of_ne (entries : List (Place × Entry)) {p : Place} (other : p ≠ place) :
    (entries.filter (·.1 != place)).find? (·.1 == p) = entries.find? (·.1 == p) := by
  rw [List.find?_filter]
  congr 1
  funext e
  by_cases h : e.1 = p <;> simp [h, other]

theorem find?_erase_self (fs : FileTree) (named : place ≠ []) :
    (fs.erase place).find? place = none := by
  rw [find?_eq named, erase, find?_filter_self, Option.map_none]

theorem find?_erase_of_ne (fs : FileTree) {p : Place} (other : p ≠ place) :
    (fs.erase place).find? p = fs.find? p := by
  by_cases root : p = []
  · rw [root, find?_root, find?_root]
  · rw [find?_eq root, find?_eq root, erase, find?_filter_of_ne _ other]

theorem find?_put_self (fs : FileTree) (entry : Entry) (named : place ≠ []) :
    (fs.put place entry).find? place = some entry := by
  rw [find?_eq named, put, List.find?_append, find?_filter_self]
  simp

theorem find?_put_of_ne (fs : FileTree) (entry : Entry) {p : Place} (other : p ≠ place) :
    (fs.put place entry).find? p = fs.find? p := by
  by_cases root : p = []
  · rw [root, find?_root, find?_root]
  · rw [find?_eq root, find?_eq root, put, List.find?_append, find?_filter_of_ne _ other]
    simp [Ne.symm other]

theorem isDirectory_put (named : place ≠ []) (free : fs.isDirectory place = false) (p : Place) :
    (fs.put place (.file content)).isDirectory p = fs.isDirectory p := by
  by_cases same : p = place
  · rw [same, free, isDirectory, find?_put_self fs _ named]
  · rw [isDirectory, isDirectory, find?_put_of_ne fs _ same]

theorem follow_mono (directories : ∀ p, fs.isDirectory p = true → fs'.isDirectory p = true)
    {here : Place} {segments : List String} {t : Target} (h : fs.follow here segments = .ok t) :
    fs'.follow here segments = .ok t := by
  induction segments generalizing here with
  | nil => exact h
  | cons segment rest ih =>
    unfold follow at h ⊢
    by_cases inside : fs.isDirectory here = true
    · simp only [inside, directories here inside, Bool.not_true, Bool.false_eq_true, if_false] at h ⊢
      -- A path stops where it fails or has a last name; it goes on at dots and at other names.
      split_ifs at h ⊢
      · exact ih h
      · exact ih h
      · exact h
      · exact h
      · exact ih h
    · simp [inside] at h

theorem target_mono (home : fs'.home = fs.home)
    (directories : ∀ p, fs.isDirectory p = true → fs'.isDirectory p = true) {t : Target}
    (h : fs.target path = .ok t) : fs'.target path = .ok t := by
  unfold target at h ⊢
  rw [home]
  split_ifs at h ⊢ <;> exact follow_mono directories h

/-- A path that leads to a place where a file is or may be. -/
structure LeadsTo (fs : FileTree) (path : String) (place : Place) : Prop where
  target : ∃ t, fs.target path = .ok t ∧ t.place = place ∧ t.asDirectory = false
  named : place ≠ []
  free : fs.isDirectory place = false

theorem leadsTo_of_target {t : Target} (ht : fs.target path = .ok t) (hf : t.asDirectory = false)
    (free : fs.find? t.place ≠ some .directory) : fs.LeadsTo path t.place where
  target := ⟨t, ht, rfl, hf⟩
  named := by
    intro root
    rw [root, find?_root] at free
    exact free rfl
  free := by
    unfold isDirectory
    split
    · contradiction
    · rfl

theorem LeadsTo.congr (leads : fs.LeadsTo path place) (home : fs'.home = fs.home)
    (directories : ∀ p, fs'.isDirectory p = fs.isDirectory p) : fs'.LeadsTo path place where
  target := by
    obtain ⟨t, ht, rest⟩ := leads.target
    exact ⟨t, target_mono home (fun p h => (directories p).trans h) ht, rest⟩
  named := leads.named
  free := (directories place).trans leads.free

theorem writable_leadsTo (h : fs.writable path = .ok place) : fs.LeadsTo path place := by
  unfold writable at h
  cases ht : fs.target path with
  | error e => simp [ht, bind, Except.bind] at h
  | ok t =>
    rcases hd : fs.find? t.place with _ | (_ | old) <;> simp only [ht, hd, bind, Except.bind] at h
    · split_ifs at h with hf
      rw [← Except.ok.inj h]
      exact leadsTo_of_target ht (by simpa using hf) (by simp [hd])
    · contradiction
    · split_ifs at h with hf
      rw [← Except.ok.inj h]
      exact leadsTo_of_target ht (by simpa using hf) (by simp [hd])

theorem lookup_leadsTo (h : fs.lookup path = .ok (place, .file content)) : fs.LeadsTo path place := by
  unfold lookup at h
  cases ht : fs.target path with
  | error e => simp [ht, bind, Except.bind] at h
  | ok t =>
    rcases hd : fs.find? t.place with _ | (_ | old) <;> simp only [ht, hd, bind, Except.bind] at h
    · contradiction
    · simp at h
    · split_ifs at h with hf
      rw [← (Prod.mk.inj (Except.ok.inj h)).1]
      exact leadsTo_of_target ht (by simpa using hf) (by simp [hd])

theorem LeadsTo.lookup_put (leads : fs.LeadsTo path place) (content : Bytes) :
    (fs.put place (.file content)).lookup path = .ok (place, .file content) := by
  obtain ⟨t, ht, rfl, hf⟩ := leads.target
  have home : (fs.put t.place (.file content)).home = fs.home := rfl
  have ht' := target_mono home
    (fun p hp => (isDirectory_put leads.named leads.free p).trans hp) ht
  simp [lookup, ht', find?_put_self fs _ leads.named, hf, bind, Except.bind]

theorem read_eq_ok :
    fs.read path = .ok content ↔ ∃ place, fs.lookup path = .ok (place, .file content) := by
  unfold read
  rcases fs.lookup path with e | ⟨place, _ | old⟩ <;> simp [bind, Except.bind]

theorem read_write (h : fs.write path content = .ok fs') : fs'.read path = .ok content := by
  unfold write at h
  cases hw : fs.writable path with
  | error e => simp [hw, bind, Except.bind] at h
  | ok place =>
    simp only [hw, bind, Except.bind, pure, Except.pure, Except.ok.injEq] at h
    rw [← h]
    exact read_eq_ok.mpr ⟨place, (writable_leadsTo hw).lookup_put content⟩

theorem read_append {old : Bytes} (h : fs.read path = .ok old) (more : Bytes) :
    (fs.append path more).read path = .ok (old ++ more) := by
  obtain ⟨place, found⟩ := read_eq_ok.mp h
  simp only [append, found]
  exact read_eq_ok.mpr ⟨place, (lookup_leadsTo found).lookup_put (old ++ more)⟩

end Courier.FileTree
