import Courier.FileTree

/-! Saving on the file system: a plain copy. What is at the destination is removed when a save
fails or is canceled. -/
namespace Courier.Disk

/-- Makes the directories on the way to a file. -/
def paveTo (fs : FileTree) (target : String) : Except OsError Unit × FileTree :=
  match FileTree.parent? target with
  | some parent => fs.pave parent
  | none => (.ok (), fs)

/-- Copies a file, with the directories on the way to the new one. The tree is as far as the copy
came. -/
def copy (fs : FileTree) (source target : String) : Except OsError Unit × FileTree :=
  match paveTo fs target with
  | (.error e, fs) => (.error e, fs)
  | (.ok (), fs) =>
    match fs.canOpen source with
    | .error e => (.error e, fs)
    | .ok () =>
      match fs.create target with
      | .error e => (.error e, fs)
      | .ok fs =>
        match fs.read source with
        | .error e => (.error e, fs)
        | .ok content => (.ok (), fs.append target content)

def discard (fs : FileTree) (path : String) : FileTree :=
  (fs.remove path).toOption.getD fs

/-- Saves a local file under a path, unless the task is canceled. -/
def save (fs : FileTree) (canceled : Bool) (source target : String) :
    Except CallError Unit × FileTree :=
  if canceled then (.error .canceled, discard fs target)
  else match copy fs source target with
    | (.ok (), fs) => (.ok (), fs)
    | (.error e, fs) => (.error (.os e), discard fs target)

end Courier.Disk
