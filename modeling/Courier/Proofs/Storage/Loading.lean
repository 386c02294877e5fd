import Courier.Proofs.Storage.Lookup

/-! What loading a configuration leaves in a registry. Storages are registered one after another and the
access of users only after all of them, so that a load that fails has registered the storages before
the one that cannot be built, and they answer by the access entries from before the load. -/
namespace Courier.Registry

variable (r : Registry)

/-- Why an entry cannot be built, if there is a factory for it and that fails. -/
def fault? (entry : StorageEntry) : Option TransferError :=
  match r.factory? entry.kind with
  | none => none
  | some factory =>
    match factory entry with
    | .error e => some e
    | .ok _ => none

/-- The storage of an entry, if there is a factory for it and that builds it. -/
def made? (entry : StorageEntry) : Option Storage :=
  match r.factory? entry.kind with
  | none => none
  | some factory => (factory entry).toOption

def built (entries : List StorageEntry) : List Storage :=
  (entries.takeWhile fun entry => (r.fault? entry).isNone).filterMap r.made?

theorem built_append {front : List StorageEntry} (sound : ∀ entry ∈ front, r.fault? entry = none)
    (rest : List StorageEntry) : r.built (front ++ rest) = front.filterMap r.made? ++ r.built rest := by
  rw [built, List.takeWhile_append_of_pos (by simpa using sound), List.filterMap_append, built]

/-- Building registers the storages before the first fault, and tells of it or counts them. -/
theorem build_eq (entries : List StorageEntry) :
    r.build entries =
      (match entries.findSome? r.fault? with
        | some e => .error e
        | none => .ok (r.built entries).length,
       (r.built entries).foldl register r) := by
  -- Registering a storage leaves the factories alone, so that later entries are built as in the
  -- registry at the start.
  induction entries generalizing r with
  | nil => rfl
  | cons entry rest ih =>
    unfold build
    cases hf : r.factory? entry.kind with
    | none =>
      have fault : r.fault? entry = none := by rw [fault?, hf]
      have made : r.made? entry = none := by rw [made?, hf]
      have skipped : r.built (entry :: rest) = r.built rest := by
        simp [built, fault, made]
      rw [skipped, List.findSome?_cons, fault]
      exact ih r
    | some factory =>
      dsimp only
      cases ha : factory entry with
      | error e =>
        have fault : r.fault? entry = some e := by simp only [fault?, hf, ha]
        have stopped : r.built (entry :: rest) = [] := by simp [built, fault]
        rw [stopped, List.findSome?_cons, fault]
        rfl
      | ok storage =>
        have fault : r.fault? entry = none := by simp only [fault?, hf, ha]
        have made : r.made? entry = some storage := by simp only [made?, hf, ha]; rfl
        have more : r.built (entry :: rest) = storage :: r.built rest := by
          simp [built, fault, made]
        have others : (r.register storage).build rest =
            (match rest.findSome? r.fault? with
              | some e => .error e
              | none => .ok (r.built rest).length,
             (r.built rest).foldl register (r.register storage)) := ih (r.register storage)
        rw [more, List.findSome?_cons, fault]
        dsimp only
        rw [others]
        cases rest.findSome? r.fault? <;> rfl

theorem load_eq_of_fault {config : Config} {e : TransferError}
    (fault : (config.storages.filter (·.enabled)).findSome? r.fault? = some e) :
    r.load config =
      (.error e, (r.built (config.storages.filter (·.enabled))).foldl register r) := by
  unfold load
  rw [build_eq, fault]

theorem load_eq_of_sound {config : Config}
    (sound : ∀ entry ∈ config.storages.filter (·.enabled), r.fault? entry = none) :
    let made := (config.storages.filter (·.enabled)).filterMap r.made?
    r.load config =
      (.ok made.length, config.users.foldl setAccess (made.foldl register r)) := by
  have all := r.built_append sound []
  rw [List.append_nil, show r.built [] = [] from rfl, List.append_nil] at all
  unfold load
  rw [build_eq, List.findSome?_eq_none_iff.mpr sound, all]

variable {r}

theorem nodup_names_foldl_register (distinct : (r.storages.map (·.name)).Nodup) (storages : List Storage) :
    ((storages.foldl register r).storages.map (·.name)).Nodup := by
  rw [foldl_register]
  exact nodup_foldl_placed (·.name) distinct storages

theorem Reached.nodup_names (reached : Reached r) : (r.storages.map (·.name)).Nodup := by
  induction reached with
  | new => exact List.nodup_nil
  | addFactory _ kind factory ih => exact ih
  | register _ storage ih => exact nodup_placed (·.name) ih storage
  | setAccess _ user ih => exact ih
  | @load r _ config ih =>
    cases fault : (config.storages.filter (·.enabled)).findSome? r.fault? with
    | some e =>
      rw [r.load_eq_of_fault fault]
      exact nodup_names_foldl_register ih _
    | none =>
      rw [r.load_eq_of_sound (List.findSome?_eq_none_iff.mp fault), foldl_setAccess]
      exact nodup_names_foldl_register ih _

theorem nodup_namesFor (distinct : (r.storages.map (·.name)).Nodup) (user : Int) :
    (r.namesFor user).Nodup :=
  (List.mergeSort_perm _ _).nodup_iff.mpr (distinct.sublist List.filter_sublist)

theorem size_foldl_register (distinct : (r.storages.map (·.name)).Nodup) (storages : List Storage) :
    (storages.foldl register r).size = ((r.storages ++ storages).map (·.name)).dedup.length := by
  have perm : ((storages.foldl register r).storages.map (·.name)).Perm
      ((r.storages ++ storages).map (·.name)).dedup := by
    rw [List.perm_ext_iff_of_nodup (nodup_names_foldl_register distinct storages) (List.nodup_dedup _)]
    intro name
    rw [foldl_register, List.mem_dedup, List.map_append, List.mem_append]
    exact mem_map_foldl_placed (·.name) r.storages storages name
  have length := perm.length_eq
  rw [List.length_map] at length
  exact length

/-- A load that fails has failed at one entry. All storages that were built before it are registered, and
each of them is had by whoever the access entries from before the load permit it, whatever those of
the configuration say. Everything else is as before. -/
theorem failed_load_keeps_storages_before (reached : Reached r) (config : Config) {e : TransferError}
    (failed : (r.load config).1 = .error e) :
    ∃ front entry back, config.storages.filter (·.enabled) = front ++ entry :: back ∧
      r.fault? entry = some e ∧ (∀ other ∈ front, r.fault? other = none) ∧
      let built := front.filterMap r.made?
      let after := (r.load config).2
      (∀ user name, after.get user name =
        match built.findRev? (·.name == name) with
        | some storage =>
          if r.permits user name then .ok storage else .error (.storageDenied user name)
        | none => r.get user name) ∧
      (∀ user, (after.namesFor user).Pairwise (· ≤ ·) ∧ (after.namesFor user).Nodup ∧
        ∀ name, name ∈ after.namesFor user ↔
          name ∈ r.namesFor user ∨ name ∈ built.map (·.name) ∧ r.permits user name = true) ∧
      after.size = ((r.storages ++ built).map (·.name)).dedup.length ∧
      (built = [] → after = r) := by
  cases fault : (config.storages.filter (·.enabled)).findSome? r.fault? with
  | none =>
    rw [r.load_eq_of_sound (List.findSome?_eq_none_iff.mp fault)] at failed
    contradiction
  | some e' =>
    have loaded := r.load_eq_of_fault fault
    rw [loaded] at failed
    obtain rfl : e' = e := Except.error.inj failed
    obtain ⟨front, entry, back, split, faulty, sound⟩ := List.findSome?_eq_some_iff.mp fault
    have stopped : r.built (entry :: back) = [] := by simp [built, faulty]
    have before : r.built (config.storages.filter (·.enabled)) = front.filterMap r.made? := by
      rw [split, r.built_append sound, stopped, List.append_nil]
    rw [before] at loaded
    have distinct := reached.nodup_names
    refine ⟨front, entry, back, split, faulty, sound, ?_⟩
    dsimp only
    rw [loaded]
    generalize front.filterMap r.made? = built
    have permits (user : Int) (name : String) :
        (built.foldl register r).permits user name = r.permits user name := by
      rw [foldl_register]
      rfl
    refine ⟨fun user name => ?_, fun user => ⟨namesFor_sorted _ user, ?_, fun name => ?_⟩, ?_, ?_⟩
    · unfold get
      rw [permits, find?_foldl_register]
      cases built.findRev? (·.name == name) <;> rfl
    · exact nodup_namesFor (nodup_names_foldl_register distinct built) user
    · simp only [namesFor, List.mem_mergeSort, List.mem_filter, permits]
      rw [foldl_register]
      dsimp only
      rw [mem_map_foldl_placed, or_and_right]
    · exact size_foldl_register distinct built
    · rintro rfl
      rfl

/-- A storage on disk, one that cannot be built, and a user who may use only the second one. -/
def twoStorages : Config where
  storages := [⟨"disk", .disk, true, some "/srv/disk"⟩, ⟨"nas", .webdav, true, none⟩]
  users := [⟨1, ["nas"], false, false, []⟩]

/-- A registry in which the second of them cannot be built. -/
def withoutNas : Registry :=
  Registry.new.addFactory .webdav fun entry => .error (.config (.other ("cannot build " ++ entry.name)))

theorem failed_load_keeps_storages_before_nas :
    Reached withoutNas ∧
    (withoutNas.load twoStorages).1 = .error (.config (.other "cannot build nas")) ∧
    (withoutNas.load twoStorages).2.size = 1 ∧
    ∀ user name, name ≠ "disk" →
      (withoutNas.load twoStorages).2.get user name = withoutNas.get user name := by
  have reached : Reached withoutNas := .addFactory .new .webdav _
  have failed : (withoutNas.load twoStorages).1 = .error (.config (.other "cannot build nas")) := by rfl
  obtain ⟨front, entry, back, split, faulty, sound, gets, -, size, -⟩ :=
    failed_load_keeps_storages_before reached twoStorages failed
  have built : front.filterMap withoutNas.made? = [.onDisk "disk" "/srv/disk"] := by
    rcases front with _ | ⟨first, _ | ⟨second, more⟩⟩
    · obtain ⟨rfl, -⟩ := List.cons.inj split
      contradiction
    · obtain ⟨rfl, -⟩ := List.cons.inj split
      rfl
    · have := congrArg List.length split
      simp [twoStorages] at this
  rw [built] at gets size
  refine ⟨reached, failed, size, fun user name other => ?_⟩
  have none : [Storage.onDisk "disk" "/srv/disk"].findRev? (·.name == name) = none :=
    (findRev?_eq_none_iff Storage.name _ name).mpr (by simpa [Storage.onDisk] using other.symm)
  rw [gets user name, none]

/-- A load that fails opens a storage to a user whom its own configuration forbids it. -/
theorem failed_load_opens_forbidden_storage :
    (withoutNas.load twoStorages).1 = .error (.config (.other "cannot build nas")) ∧
    (∃ entry ∈ twoStorages.users, entry.id = 1 ∧ entry.mayUse "disk" = false) ∧
    withoutNas.get 1 "disk" = .error (.storageNotFound "disk") ∧
    (withoutNas.load twoStorages).2.get 1 "disk" = .ok (.onDisk "disk" "/srv/disk") :=
  ⟨rfl, ⟨_, List.mem_cons_self, rfl, by decide⟩, rfl, rfl⟩

end Courier.Registry
