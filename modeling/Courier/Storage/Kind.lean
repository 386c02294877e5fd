/-! The closed set of storage families. -/
namespace Courier

inductive StorageKind where
  /-- A directory of the local file system. -/
  | disk
  | webdav
  /-- A file manager reached by HTTP. -/
  | alist
  /-- An object store. -/
  | minio
  deriving DecidableEq, Repr, Inhabited

namespace StorageKind

def name : StorageKind → String
  | disk => "local"
  | webdav => "webdav"
  | alist => "alist"
  | minio => "minio"

def all : List StorageKind := [disk, webdav, alist, minio]

def ofName? (text : String) : Option StorageKind :=
  all.find? fun kind => kind.name == text

end StorageKind

end Courier
