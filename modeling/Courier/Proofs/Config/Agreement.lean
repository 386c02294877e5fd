import Courier.Proofs.Config.Validation
import Courier.Proofs.Storage.Loading
import Courier.Rule.Lookup

/-! An accepted configuration means the same wherever it is walked through: what loading builds of it is
what its entries name, and who may use a storage and which rules a user has is what the only entry
of the user says. -/
namespace Courier

/-- Whether a new registry builds the storage of an entry: disabled ones are left out, and of the
others all but those on disk have to be registered by the embedder. -/
def StorageEntry.isBuiltIn (entry : StorageEntry) : Bool :=
  entry.enabled && entry.kind == .disk

/-- Whether a user's list forbids a storage. -/
def User.Forbids (user : User) (storage : String) : Prop :=
  user.denies = false ∧ storage ∉ user.storages ∨ user.denies = true ∧ storage ∈ user.storages

theorem User.mayUse_eq_false_iff (user : User) (storage : String) :
    user.mayUse storage = false ↔ user.Forbids storage := by
  unfold User.mayUse User.Forbids
  cases user.denies <;> simp

namespace Registry

theorem new_made? (entry : StorageEntry) :
    Registry.new.made? entry =
      if entry.kind = .disk then entry.base.map (Storage.onDisk entry.name) else none := by
  have factory : Registry.new.factory? entry.kind =
      if entry.kind = .disk then some Storage.ofEntry else none := by
    cases entry.kind <;> rfl
  unfold made?
  rw [factory]
  by_cases disk : entry.kind = .disk
  · simp only [if_pos disk, Storage.ofEntry]
    cases entry.base <;> rfl
  · simp only [if_neg disk]

theorem new_fault? {entry : StorageEntry}
    (based : entry.kind = .disk → ∃ base, entry.base = some base) : Registry.new.fault? entry = none := by
  have factory : Registry.new.factory? entry.kind =
      if entry.kind = .disk then some Storage.ofEntry else none := by
    cases entry.kind <;> rfl
  unfold fault?
  rw [factory]
  by_cases disk : entry.kind = .disk
  · obtain ⟨base, hb⟩ := based disk
    simp only [if_pos disk, Storage.ofEntry, hb]
  · simp only [if_neg disk]

end Registry

namespace Config

variable {config : Config}

/-- The storages that loading into a new registry builds. -/
def builtIns (config : Config) : List Storage :=
  (config.storages.filter (·.enabled)).filterMap Registry.new.made?

theorem mem_builtIns_iff {storage : Storage} :
    storage ∈ config.builtIns ↔ ∃ entry ∈ config.storages, entry.isBuiltIn = true ∧
      ∃ base, entry.base = some base ∧ storage = .onDisk entry.name base := by
  simp only [builtIns, List.mem_filterMap, List.mem_filter, Registry.new_made?,
    StorageEntry.isBuiltIn, Bool.and_eq_true, beq_iff_eq]
  constructor
  · rintro ⟨entry, ⟨mem, enabled⟩, made⟩
    by_cases disk : entry.kind = .disk
    · rw [if_pos disk] at made
      obtain ⟨base, hb, rfl⟩ := Option.map_eq_some_iff.mp made
      exact ⟨entry, mem, ⟨enabled, disk⟩, base, hb, rfl⟩
    · rw [if_neg disk] at made
      contradiction
  · rintro ⟨entry, mem, ⟨enabled, disk⟩, base, hb, rfl⟩
    exact ⟨entry, ⟨mem, enabled⟩, by rw [if_pos disk, hb]; rfl⟩

/-- Each built-in entry gives one storage, which has its name. -/
theorem WellFormed.names_builtIns (sound : config.WellFormed) :
    config.builtIns.map (·.name) = (config.storages.filter (·.isBuiltIn)).map (·.name) := by
  have bases := sound.bases
  unfold builtIns
  generalize config.storages = entries at bases
  induction entries with
  | nil => rfl
  | cons entry rest ih =>
    obtain ⟨based, others⟩ := List.forall_mem_cons.mp bases
    have rest := ih others
    cases enabled : entry.enabled with
    | false => simpa [StorageEntry.isBuiltIn, enabled] using rest
    | true =>
      by_cases disk : entry.kind = .disk
      · obtain ⟨base, hb⟩ := based disk
        have made : Registry.new.made? entry = some (.onDisk entry.name base) := by
          rw [Registry.new_made?, if_pos disk, hb]
          rfl
        simpa [StorageEntry.isBuiltIn, enabled, disk, made, Storage.onDisk] using rest
      · have made : Registry.new.made? entry = none := by rw [Registry.new_made?, if_neg disk]
        simpa [StorageEntry.isBuiltIn, enabled, disk, made] using rest

theorem WellFormed.nodup_builtIns (sound : config.WellFormed) :
    (config.builtIns.map (·.name)).Nodup := by
  rw [sound.names_builtIns]
  exact sound.names.sublist (List.filter_sublist.map _)

theorem WellFormed.length_builtIns (sound : config.WellFormed) :
    config.builtIns.length = (config.storages.filter (·.isBuiltIn)).length := by
  have lengths := congrArg List.length sound.names_builtIns
  rwa [List.length_map, List.length_map] at lengths

/-- The registry of a configuration, when nothing else is registered. -/
def registry (config : Config) : Registry :=
  (Registry.new.load config).2

theorem WellFormed.load_eq (sound : config.WellFormed) :
    Registry.new.load config = (.ok config.builtIns.length,
      config.users.foldl Registry.setAccess (config.builtIns.foldl Registry.register .new)) := by
  apply Registry.load_eq_of_sound
  intro entry mem
  exact Registry.new_fault? (sound.bases entry (List.mem_filter.mp mem).1)

theorem WellFormed.size_registry (sound : config.WellFormed) :
    config.registry.size = config.builtIns.length := by
  have size := Registry.size_foldl_register (r := .new) List.nodup_nil config.builtIns
  rw [show Registry.new.storages = [] from rfl, List.nil_append,
    List.dedup_eq_self.mpr sound.nodup_builtIns, List.length_map] at size
  rw [registry, sound.load_eq, Registry.foldl_setAccess]
  exact size

theorem WellFormed.find?_registry (sound : config.WellFormed) {name : String} {storage : Storage} :
    config.registry.find? name = some storage ↔ storage ∈ config.builtIns ∧ storage.name = name := by
  have found := Registry.find?_foldl_register .new config.builtIns name
  rw [show Registry.new.find? name = none from rfl, Option.or_none] at found
  rw [registry, sound.load_eq, Registry.foldl_setAccess, ← findRev?_eq_some_iff _ sound.nodup_builtIns]
  exact Eq.congr_left found

theorem WellFormed.exists_find?_iff (sound : config.WellFormed) {name : String} :
    (∃ storage, config.registry.find? name = some storage) ↔
      ∃ entry ∈ config.storages, entry.isBuiltIn = true ∧ entry.name = name := by
  simp only [sound.find?_registry, mem_builtIns_iff]
  constructor
  · rintro ⟨_, ⟨entry, mem, builtIn, base, hb, rfl⟩, named⟩
    exact ⟨entry, mem, builtIn, named⟩
  · rintro ⟨entry, mem, builtIn, named⟩
    have disk : entry.kind = .disk := by
      simpa using (Bool.and_eq_true_iff.mp builtIn).2
    obtain ⟨base, hb⟩ := sound.bases entry mem disk
    exact ⟨_, ⟨entry, mem, builtIn, base, hb, rfl⟩, named⟩

theorem WellFormed.permits_eq_false_iff (sound : config.WellFormed) {user : Int} {name : String} :
    config.registry.permits user name = false ↔
      ∃ entry ∈ config.users, entry.id = user ∧ entry.Forbids name := by
  have only {entry : User} := findRev?_eq_some_iff (k := user) (x := entry) (·.id) sound.users
  rw [registry, sound.load_eq, Registry.permits_foldl_setAccess]
  cases found : config.users.findRev? (·.id == user) with
  | none =>
    have all : ((config.builtIns.foldl Registry.register .new).permits user name) = true := by
      rw [Registry.foldl_register]
      rfl
    have absent := (findRev?_eq_none_iff User.id config.users user).mp found
    simp only [all, Bool.true_eq_false, false_iff]
    rintro ⟨entry, mem, same, -⟩
    exact absent entry mem same
  | some entry =>
    obtain ⟨mem, same⟩ := only.mp found
    dsimp only
    rw [User.mayUse_eq_false_iff]
    constructor
    · exact fun forbids => ⟨entry, mem, same, forbids⟩
    · rintro ⟨other, hother, same', forbids⟩
      have equal := (found.symm.trans (only.mpr ⟨hother, same'⟩))
      exact Option.some.inj equal ▸ forbids

/-- Validation accepts a configuration with workers, distinct names and ids, and bases for all storages
on disk. Loading an accepted one into a new registry builds its enabled storages on disk. After that
a storage is found under just their names, denied to just the users whose only entry forbids it,
and listed for all others; and the rules of a user are those of the only entry with the id. -/
theorem accepted_config_agrees (config : Config) :
    (config.validate = .ok () ↔ 1 ≤ config.workers ∧ (config.storages.map (·.name)).Nodup ∧
      (∀ entry ∈ config.storages, entry.kind = .disk → ∃ base, entry.base = some base) ∧
      (config.users.map (·.id)).Nodup) ∧
    (config.validate = .ok () →
      (Registry.new.load config).1 = .ok config.registry.size ∧
      config.registry.size = (config.storages.filter (·.isBuiltIn)).length ∧
      (∀ user name,
        (config.registry.get user name = .error (.storageNotFound name) ↔
          ¬ ∃ entry ∈ config.storages, entry.isBuiltIn = true ∧ entry.name = name) ∧
        (config.registry.get user name = .error (.storageDenied user name) ↔
          (∃ entry ∈ config.storages, entry.isBuiltIn = true ∧ entry.name = name) ∧
          ∃ entry ∈ config.users, entry.id = user ∧ entry.Forbids name) ∧
        (∀ entry ∈ config.storages, entry.isBuiltIn = true → entry.name = name →
          (¬ ∃ entry ∈ config.users, entry.id = user ∧ entry.Forbids name) →
          ∃ base, entry.base = some base ∧
            config.registry.get user name = .ok (.onDisk name base))) ∧
      (∀ user, (config.registry.namesFor user).Pairwise (· ≤ ·) ∧
        (config.registry.namesFor user).Nodup ∧
        ∀ name, name ∈ config.registry.namesFor user ↔
          ∃ storage, config.registry.get user name = .ok storage) ∧
      ∀ user, (∃ entry ∈ config.users, entry.id = user ∧
          (∀ other ∈ config.users, other.id = user → other = entry) ∧
          config.rulesFor user = .ok ⟨entry.applyRules, entry.rules⟩) ∨
        (∀ entry ∈ config.users, entry.id ≠ user) ∧
          config.rulesFor user = .error (.notFound ("user " ++ toString user))) := by
  refine ⟨⟨fun accepted => ?_, fun sound => ?_⟩, fun accepted => ?_⟩
  · have sound := config.validate_eq_ok_iff.mp accepted
    exact ⟨sound.workers, sound.names, sound.bases, sound.users⟩
  · exact config.validate_eq_ok_iff.mpr ⟨sound.1, sound.2.1, sound.2.2.1, sound.2.2.2⟩
  have sound := config.validate_eq_ok_iff.mp accepted
  have distinct : (config.registry.storages.map (·.name)).Nodup :=
    (Registry.Reached.load .new config).nodup_names
  refine ⟨?_, ?_, fun user name => ⟨?_, ?_, ?_⟩, fun user => ⟨?_, ?_, fun name => ?_⟩, fun user => ?_⟩
  · rw [sound.size_registry, sound.load_eq]
  · rw [sound.size_registry, sound.length_builtIns]
  · rw [Registry.get_eq_notFound_iff, ← sound.exists_find?_iff, ← Option.isSome_iff_exists,
      Option.not_isSome_iff_eq_none]
  · rw [Registry.get_eq_denied_iff, sound.exists_find?_iff, sound.permits_eq_false_iff]
  · intro entry mem builtIn named free
    have disk : entry.kind = .disk := by
      simpa using (Bool.and_eq_true_iff.mp builtIn).2
    obtain ⟨base, hb⟩ := sound.bases entry mem disk
    have built : Storage.onDisk entry.name base ∈ config.builtIns :=
      mem_builtIns_iff.mpr ⟨entry, mem, builtIn, base, hb, rfl⟩
    have permitted : config.registry.permits user name = true := by
      rw [← Bool.not_eq_false, sound.permits_eq_false_iff]
      exact free
    refine ⟨base, hb, Registry.get_eq_ok_iff.mpr ⟨?_, permitted⟩⟩
    rw [← named]
    exact sound.find?_registry.mpr ⟨built, rfl⟩
  · exact Registry.namesFor_sorted _ user
  · exact Registry.nodup_namesFor distinct user
  · exact Registry.mem_namesFor_iff
  · unfold rulesFor
    cases found : config.users.findRev? (·.id == user) with
    | none => exact Or.inr ⟨(findRev?_eq_none_iff User.id config.users user).mp found, rfl⟩
    | some entry =>
      obtain ⟨mem, same⟩ := (findRev?_eq_some_iff User.id sound.users).mp found
      refine Or.inl ⟨entry, mem, same, fun other hother same' => ?_, rfl⟩
      exact List.inj_on_of_nodup_map sound.users hother mem (same'.trans same.symm)

/-- Two storages on disk, of which one is disabled; the first user may use only the other one, and the
second user all but the first one. -/
def twoDisks : Config where
  storages := [⟨"disk", .disk, true, some "/srv/disk"⟩, ⟨"off", .disk, false, some "/srv/off"⟩,
    ⟨"nas", .webdav, true, none⟩]
  users := [⟨1, ["disk"], false, true, []⟩, ⟨2, ["disk"], true, false, []⟩]

theorem accepted_config_agrees_of_disks :
    twoDisks.validate = .ok () ∧ twoDisks.registry.size = 1 ∧
    (∃ base, some "/srv/disk" = some base ∧
      twoDisks.registry.get 1 "disk" = .ok (.onDisk "disk" base)) ∧
    twoDisks.registry.get 2 "disk" = .error (.storageDenied 2 "disk") ∧
    twoDisks.registry.get 3 "off" = .error (.storageNotFound "off") ∧
    "disk" ∈ twoDisks.registry.namesFor 3 := by
  have accepted : twoDisks.validate = .ok () := by rfl
  obtain ⟨-, size, gets, names, -⟩ := (accepted_config_agrees twoDisks).2 accepted
  have permitted (user : Int) (h : user ≠ 2) :
      ¬ ∃ entry ∈ twoDisks.users, entry.id = user ∧ entry.Forbids "disk" := by
    simp [twoDisks, User.Forbids, Ne.symm h]
  have had (user : Int) (h : user ≠ 2) := (gets user "disk").2.2
    ⟨"disk", .disk, true, some "/srv/disk"⟩ List.mem_cons_self rfl rfl (permitted user h)
  refine ⟨accepted, size, had 1 (by decide), (gets 2 "disk").2.1.mpr ?_, (gets 3 "off").1.mpr ?_, ?_⟩
  · simp [twoDisks, StorageEntry.isBuiltIn, User.Forbids]
  · simp [twoDisks, StorageEntry.isBuiltIn]
  · obtain ⟨base, -, got⟩ := had 3 (by decide)
    exact ((names 3).2.2 "disk").mpr ⟨_, got⟩

end Config

end Courier
