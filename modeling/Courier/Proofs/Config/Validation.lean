import Courier.Config.Basic

/-! What validation accepts: some workers, storages and users told apart by their names and ids, and a
base for every storage on disk. -/
namespace Courier

/-- What a configuration has to be for its parts to agree. -/
structure Config.WellFormed (config : Config) : Prop where
  workers : 1 ≤ config.workers
  names : (config.storages.map (·.name)).Nodup
  bases : ∀ entry ∈ config.storages, entry.kind = .disk → ∃ base, entry.base = some base
  users : (config.users.map (·.id)).Nodup

/-- Keys are distinct, and none of them has been seen, if that holds of the first one and then, with
this one seen as well, of the others. -/
theorem nodup_unseen_cons {α κ : Type} (key : α → κ) (x : α) (xs : List α) (seen : List κ) :
    ((x :: xs).map key).Nodup ∧ (∀ y ∈ x :: xs, key y ∉ seen) ↔
      key x ∉ seen ∧ (xs.map key).Nodup ∧ ∀ y ∈ xs, key y ∉ key x :: seen := by
  rw [List.map_cons, List.nodup_cons, List.forall_mem_cons]
  constructor
  · intro ⟨⟨fresh, distinct⟩, unseen, others⟩
    refine ⟨unseen, distinct, ?_⟩
    intro y hy again
    rcases List.mem_cons.mp again with same | before
    · exact fresh (List.mem_map.mpr ⟨y, hy, same⟩)
    · exact others y hy before
  · intro ⟨unseen, distinct, others⟩
    refine ⟨⟨?_, distinct⟩, unseen, fun y hy before => others y hy (List.mem_cons_of_mem _ before)⟩
    intro again
    obtain ⟨y, hy, same⟩ := List.mem_map.mp again
    exact others y hy (same ▸ List.mem_cons_self)

namespace Config

theorem storageFault?_eq_none (seen : List String) (entries : List StorageEntry) :
    storageFault? seen entries = none ↔
      ((entries.map (·.name)).Nodup ∧ ∀ entry ∈ entries, entry.name ∉ seen) ∧
        ∀ entry ∈ entries, entry.kind = .disk → ∃ base, entry.base = some base := by
  induction entries generalizing seen with
  | nil => simp [storageFault?]
  | cons entry rest ih =>
    rw [nodup_unseen_cons, List.forall_mem_cons, storageFault?]
    have lacks : (entry.kind == .disk && entry.base.isNone) = true ↔
        ¬ (entry.kind = .disk → ∃ base, entry.base = some base) := by
      cases entry.base <;> simp
    by_cases known : entry.name ∈ seen
    · rw [if_pos (List.contains_iff_mem.mpr known)]
      exact ⟨nofun, fun h => absurd known h.1.1⟩
    · rw [if_neg (mt List.contains_iff_mem.mp known)]
      by_cases baseless : (entry.kind == .disk && entry.base.isNone) = true
      · rw [if_pos baseless]
        exact ⟨nofun, fun h => absurd h.2.1 (lacks.mp baseless)⟩
      · rw [if_neg baseless, ih]
        have based := Classical.not_not.mp (mt lacks.mpr baseless)
        constructor
        · intro ⟨distinct, bases⟩
          exact ⟨⟨known, distinct⟩, based, bases⟩
        · intro ⟨⟨_, distinct⟩, _, bases⟩
          exact ⟨distinct, bases⟩

theorem userFault?_eq_none (seen : List Int) (users : List User) :
    userFault? seen users = none ↔ (users.map (·.id)).Nodup ∧ ∀ user ∈ users, user.id ∉ seen := by
  induction users generalizing seen with
  | nil => simp [userFault?]
  | cons user rest ih =>
    rw [nodup_unseen_cons, userFault?]
    by_cases known : user.id ∈ seen
    · rw [if_pos (List.contains_iff_mem.mpr known)]
      exact ⟨nofun, fun h => absurd known h.1⟩
    · rw [if_neg (mt List.contains_iff_mem.mp known), ih, and_iff_right known]

theorem validate_eq_ok_iff (config : Config) : config.validate = .ok () ↔ config.WellFormed := by
  have storages := storageFault?_eq_none [] config.storages
  have users := userFault?_eq_none [] config.users
  simp only [List.not_mem_nil, not_false_eq_true, implies_true, and_true] at storages users
  unfold validate
  by_cases few : config.workers < 1
  · rw [if_pos few]
    exact ⟨nofun, fun h => absurd h.workers (Nat.not_le_of_lt few)⟩
  · rw [if_neg few]
    cases hs : storageFault? [] config.storages with
    | some fault =>
      refine ⟨nofun, fun h => ?_⟩
      rw [storages.mpr ⟨h.names, h.bases⟩] at hs
      contradiction
    | none =>
      obtain ⟨names, bases⟩ := storages.mp hs
      cases hu : userFault? [] config.users with
      | some fault =>
        refine ⟨nofun, fun h => ?_⟩
        rw [users.mpr h.users] at hu
        contradiction
      | none => exact ⟨fun _ => ⟨Nat.le_of_not_lt few, names, bases, users.mp hu⟩, fun _ => rfl⟩

end Config

end Courier
