import Courier.Storage.Basic

/-! The storages by name, what builds them from configuration, and who may use which. -/
namespace Courier

abbrev StorageFactory := StorageEntry → Except TransferError Storage

structure Registry where
  factories : List (StorageKind × StorageFactory)
  /-- Each name once. -/
  storages : List Storage
  /-- The access entries of users, each user once. -/
  access : List User

namespace Registry

/-- No storages, and a factory for those on disk. -/
def new : Registry :=
  ⟨[(.disk, Storage.ofEntry)], [], []⟩

def addFactory (r : Registry) (kind : StorageKind) (factory : StorageFactory) : Registry :=
  { r with factories := (kind, factory) :: r.factories.filter (·.1 != kind) }

def factory? (r : Registry) (kind : StorageKind) : Option StorageFactory :=
  (r.factories.find? (·.1 == kind)).map (·.2)

def register (r : Registry) (storage : Storage) : Registry :=
  { r with storages := r.storages.filter (·.name != storage.name) ++ [storage] }

def setAccess (r : Registry) (user : User) : Registry :=
  { r with access := r.access.filter (·.id != user.id) ++ [user] }

/-- Builds entries one after another up to the first that cannot be built. Entries of a kind
without a factory are passed over. -/
def build (r : Registry) : List StorageEntry → Except TransferError Nat × Registry
  | [] => (.ok 0, r)
  | entry :: rest =>
    match r.factory? entry.kind with
    | none => build r rest
    | some factory =>
      match factory entry with
      | .error e => (.error e, r)
      | .ok storage =>
        let (built, r) := build (r.register storage) rest
        (built.map (· + 1), r)

/-- Builds the enabled storages of a configuration, and then takes over the access of its users.
Gives the number of storages built. -/
def load (r : Registry) (config : Config) : Except TransferError Nat × Registry :=
  match r.build (config.storages.filter (·.enabled)) with
  | (.error e, r) => (.error e, r)
  | (.ok built, r) => (.ok built, config.users.foldl setAccess r)

def find? (r : Registry) (name : String) : Option Storage :=
  r.storages.find? (·.name == name)

/-- Whether a user may use a name; one without an access entry may use all. -/
def permits (r : Registry) (user : Int) (name : String) : Bool :=
  match r.access.find? (·.id == user) with
  | some entry => entry.mayUse name
  | none => true

/-- The storage of a name, if there is one and the user may use it. -/
def get (r : Registry) (user : Int) (name : String) : Except TransferError Storage :=
  match r.find? name with
  | none => .error (.storageNotFound name)
  | some storage => if r.permits user name then .ok storage else .error (.storageDenied user name)

/-- The names that a user may use, sorted. -/
def namesFor (r : Registry) (user : Int) : List String :=
  ((r.storages.map (·.name)).filter (r.permits user)).mergeSort

def size (r : Registry) : Nat :=
  r.storages.length

end Registry

end Courier
