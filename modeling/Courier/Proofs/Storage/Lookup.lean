import Courier.Storage.Registry
import Mathlib.Data.List.Dedup

/-! Storages by name and users by id. What is put into a registry takes the place of what has the same
key, so of several the last one counts, and each name is there once. -/
namespace Courier

section Keyed

variable {α κ : Type} [DecidableEq κ] (key : α → κ)

/-- A list with one more element, in the place of those that have its key. -/
def placed (list : List α) (x : α) : List α :=
  list.filter (key · != key x) ++ [x]

theorem find?_placed (list : List α) (x : α) (k : κ) :
    (placed key list x).find? (key · == k) = if key x = k then some x else list.find? (key · == k) := by
  have last : [x].find? (key · == k) = if key x = k then some x else none := by
    by_cases h : key x = k <;> simp [h]
  rw [placed, List.find?_append, last, List.find?_filter]
  by_cases h : key x = k
  · -- All that have the key are gone.
    rw [if_pos h, List.find?_eq_none.mpr (by simp [h]), Option.none_or, if_pos h]
  · have others : (fun y => decide ((key y != key x) = true ∧ (key y == k) = true)) =
        fun y => key y == k := by
      funext y
      by_cases hy : key y = k
      · simp [hy, Ne.symm h]
      · simp [hy]
    rw [if_neg h, others, Option.or_none, if_neg h]

/-- Of several elements with one key the last one is found. -/
theorem find?_foldl_placed (list more : List α) (k : κ) :
    (more.foldl (placed key) list).find? (key · == k) =
      (more.findRev? (key · == k)).or (list.find? (key · == k)) := by
  induction more generalizing list with
  | nil => rfl
  | cons x more ih =>
    rw [List.foldl_cons, ih, find?_placed, List.findRev?_eq_find?_reverse, List.findRev?_eq_find?_reverse,
      List.reverse_cons, List.find?_append, Option.or_assoc]
    by_cases h : key x = k <;> simp [h]

theorem mem_map_foldl_placed (list more : List α) (k : κ) :
    k ∈ (more.foldl (placed key) list).map key ↔ k ∈ list.map key ∨ k ∈ more.map key := by
  have present (l : List α) : k ∈ l.map key ↔ (l.find? (key · == k)).isSome = true := by
    rw [List.find?_isSome, List.mem_map]
    simp only [beq_iff_eq]
  rw [present, present, find?_foldl_placed, Option.isSome_or, List.findRev?_eq_find?_reverse,
    Bool.or_eq_true, ← present, List.map_reverse, List.mem_reverse, or_comm]

theorem nodup_placed {list : List α} (distinct : (list.map key).Nodup) (x : α) :
    ((placed key list x).map key).Nodup := by
  rw [placed, List.map_append, List.nodup_append]
  refine ⟨distinct.sublist (List.filter_sublist.map key), by simp, ?_⟩
  intro k hk k' hk' same
  obtain ⟨y, hy, rfl⟩ := List.mem_map.mp hk
  obtain rfl : k' = key x := by simpa using hk'
  exact bne_iff_ne.mp (List.mem_filter.mp hy).2 same

theorem nodup_foldl_placed {list : List α} (distinct : (list.map key).Nodup) (more : List α) :
    ((more.foldl (placed key) list).map key).Nodup := by
  induction more generalizing list with
  | nil => exact distinct
  | cons x more ih => exact ih (nodup_placed key distinct x)

/-- With distinct keys it does not matter from which end one looks. -/
theorem findRev?_eq_some_iff {list : List α} (distinct : (list.map key).Nodup) {k : κ} {x : α} :
    list.findRev? (key · == k) = some x ↔ x ∈ list ∧ key x = k := by
  have found {y : α} (h : list.findRev? (key · == k) = some y) : y ∈ list ∧ key y = k := by
    rw [List.findRev?_eq_find?_reverse] at h
    exact ⟨List.mem_reverse.mp (List.mem_of_find?_eq_some h), by simpa using List.find?_some h⟩
  constructor
  · exact found
  · intro ⟨mem, keyed⟩
    cases h : list.findRev? (key · == k) with
    | none =>
      rw [List.findRev?_eq_find?_reverse, List.find?_eq_none] at h
      exact absurd (beq_iff_eq.mpr keyed) (h x (List.mem_reverse.mpr mem))
    | some y =>
      obtain ⟨hy, same⟩ := found h
      rw [List.inj_on_of_nodup_map distinct hy mem (same.trans keyed.symm)]

theorem findRev?_eq_none_iff (list : List α) (k : κ) :
    list.findRev? (key · == k) = none ↔ ∀ x ∈ list, key x ≠ k := by
  simp [List.findRev?_eq_find?_reverse]

end Keyed
namespace Registry

variable (r : Registry)

theorem foldl_register (built : List Storage) :
    built.foldl register r = { r with storages := built.foldl (placed (·.name)) r.storages } := by
  induction built generalizing r with
  | nil => rfl
  | cons storage built ih => exact ih (r.register storage)

theorem foldl_setAccess (users : List User) :
    users.foldl setAccess r = { r with access := users.foldl (placed (·.id)) r.access } := by
  induction users generalizing r with
  | nil => rfl
  | cons user users ih => exact ih (r.setAccess user)

theorem find?_foldl_register (built : List Storage) (name : String) :
    (built.foldl register r).find? name =
      (built.findRev? (·.name == name)).or (r.find? name) := by
  rw [foldl_register]
  exact find?_foldl_placed (·.name) r.storages built name

theorem permits_foldl_setAccess (users : List User) (user : Int) (name : String) :
    (users.foldl setAccess r).permits user name =
      match users.findRev? (·.id == user) with
      | some entry => entry.mayUse name
      | none => r.permits user name := by
  have found := find?_foldl_placed (·.id) r.access users user
  rw [foldl_setAccess]
  unfold permits
  rw [show ({ r with access := users.foldl (placed (·.id)) r.access } : Registry).access =
    users.foldl (placed (·.id)) r.access from rfl, found]
  cases users.findRev? (·.id == user) <;> rfl

variable {r} {user : Int} {name : String}

theorem get_eq_ok_iff {storage : Storage} :
    r.get user name = .ok storage ↔ r.find? name = some storage ∧ r.permits user name = true := by
  unfold get
  cases r.find? name with
  | none => simp
  | some found => cases r.permits user name <;> simp

theorem get_eq_notFound_iff :
    r.get user name = .error (.storageNotFound name) ↔ r.find? name = none := by
  unfold get
  cases r.find? name with
  | none => simp
  | some found => cases r.permits user name <;> simp

theorem get_eq_denied_iff :
    r.get user name = .error (.storageDenied user name) ↔
      (∃ storage, r.find? name = some storage) ∧ r.permits user name = false := by
  unfold get
  cases r.find? name with
  | none => simp
  | some found => cases r.permits user name <;> simp

theorem mem_names_iff : name ∈ r.storages.map (·.name) ↔ ∃ storage, r.find? name = some storage := by
  rw [← Option.isSome_iff_exists, find?, List.find?_isSome, List.mem_map]
  simp only [beq_iff_eq]

theorem mem_namesFor_iff :
    name ∈ r.namesFor user ↔ ∃ storage, r.get user name = .ok storage := by
  simp only [namesFor, List.mem_mergeSort, List.mem_filter, mem_names_iff, get_eq_ok_iff,
    exists_and_right]

variable (r user) in
theorem namesFor_sorted : (r.namesFor user).Pairwise (· ≤ ·) := by
  have transitive (a b c : String) (hab : decide (a ≤ b) = true) (hbc : decide (b ≤ c) = true) :
      decide (a ≤ c) = true :=
    decide_eq_true (String.le_trans (of_decide_eq_true hab) (of_decide_eq_true hbc))
  have total (a b : String) : (decide (a ≤ b) || decide (b ≤ a)) = true := by
    simpa using String.le_total a b
  have sorted := List.pairwise_mergeSort transitive total
    ((r.storages.map (·.name)).filter (r.permits user))
  exact sorted.imp of_decide_eq_true

/-- Registries that come of a new one by what can be done to them. -/
inductive Reached : Registry → Prop where
  | new : Reached .new
  | addFactory {r : Registry} (before : Reached r) (kind : StorageKind) (factory : StorageFactory) :
      Reached (r.addFactory kind factory)
  | register {r : Registry} (before : Reached r) (storage : Storage) : Reached (r.register storage)
  | setAccess {r : Registry} (before : Reached r) (user : User) : Reached (r.setAccess user)
  | load {r : Registry} (before : Reached r) (config : Config) : Reached (r.load config).2

end Registry

end Courier
