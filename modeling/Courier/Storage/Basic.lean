import Courier.Config.Basic
import Courier.Text.Quoted

/-! Storages: named places that finished files are saved to. -/
namespace Courier

/-- Who keeps the files of a storage. -/
inductive Medium where
  /-- The local file system. -/
  | disk
  /-- A backend of the embedder, by its number. -/
  | backend (number : Nat)
  deriving DecidableEq, Repr

structure Storage where
  name : String
  kind : StorageKind
  medium : Medium
  /-- Full path of a relative one. -/
  locate : String → String

namespace Storage

/-- A directory of the file system. Leading slashes of a relative path do not count, and nothing
else of it is changed. -/
def onDisk (name base : String) : Storage where
  name
  kind := .disk
  medium := .disk
  locate relative := Path.below base (String.ofList (relative.toList.dropWhile (· == '/')))

def backend (name : String) (kind : StorageKind) (base : String) (number : Nat) : Storage where
  name
  kind
  medium := .backend number
  locate relative := Path.join base relative

def ofEntry (entry : StorageEntry) : Except TransferError Storage :=
  match entry.base with
  | some base => .ok (onDisk entry.name base)
  | none => .error (.config (.missingBase entry.name))

end Storage

/-- A resolved destination. -/
structure Route where
  storage : Storage
  path : String

def Route.display (route : Route) : String :=
  "Route \x7b storage: " ++ Text.quoted route.storage.name ++ ", path: " ++
    Text.quoted route.path ++ " \x7d"

end Courier
