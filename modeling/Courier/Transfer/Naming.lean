import Courier.Task.Basic

/-! Names that the engine makes up: of files that came without one, and of cache files, which tasks
and images never share. -/
namespace Courier

/-- The name of a message's file that has none of its own. -/
def RemoteFile.fallbackName (file : RemoteFile) (chat post : Int) : String :=
  toString chat ++ "_" ++ toString post ++ "_" ++ file.hash

def isSeparator (c : Char) : Bool :=
  c == '/' || c == '\\'

/-- The name of a task's cache file: one path segment, whatever the file is called. -/
def cacheName (id : TaskId) (fileName : String) : String :=
  toString id ++ "_" ++ fileName.map fun c => if isSeparator c then '_' else c

/-- The name that an image of an article is saved under; images count from one. -/
def imageName (number : Nat) (extension : String) : String :=
  toString number ++ extension

def imageCacheName (id : TaskId) (number : Nat) (extension : String) : String :=
  toString id ++ "_" ++ imageName number extension

def Task.withName (task : Task) : Task :=
  match task.origin with
  | .message file chat post =>
    if file.name.isEmpty then task.rename (file.fallbackName chat post) else task
  | .article _ => task

end Courier
