import Courier.FileTree

/-! Remote objects whose locations are paths of the file system. -/
namespace Courier.Disk

/-- The path that a location means; relative ones are below the root, if there is one. -/
def sourcePath (root : Option String) (location : String) : String :=
  match root with
  | some root => Path.below root location
  | none => location

def openObject (fs : FileTree) (path : String) : Except CallError Nat :=
  match fs.size path with
  | .ok size => .ok size
  | .error .noEntry => .error (.notFound path)
  | .error e => .error (.os e)

/-- Bytes that one read of a file gives at most. -/
def blockSize : Nat := 2 * 1024 * 1024

/-- Reads on from a place until nothing more comes, `want` bytes at most. What one read gives may depend on
the place, and is added to what is held already. -/
def readUpTo (most : Nat → Nat) (content : Bytes) (place want : Nat) (held : Bytes) : Bytes :=
  let block := content.extract place (place + min (most place) want)
  if block.size = 0 then held
  else readUpTo most content (place + block.size) (want - block.size) (held ++ block)
termination_by want
decreasing_by
  have within : block.size ≤ want := by
    simp only [block, ByteArray.size_extract]
    omega
  show want - block.size < want
  omega

/-- The bytes of a file from an offset on, `want` of them at most. Nothing at all is read for none. -/
def slice (fs : FileTree) (path : String) (offset want : Nat) : Except CallError Bytes :=
  if want = 0 then .ok ByteArray.empty
  else match fs.read path with
    | .ok content => .ok (readUpTo (fun _ => blockSize) content offset want ByteArray.empty)
    | .error e => .error (.os e)

/-- Up to `limit` bytes of an object from an offset on. -/
def fetchChunk (fs : FileTree) (root : Option String) (location : String) (offset limit : Nat) :
    Except CallError Bytes := do
  let path := sourcePath root location
  let size ← openObject fs path
  if offset ≥ size then return ByteArray.empty
  slice fs path offset (min limit (size - offset))

/-- The first bytes of an object, up to `limit` of them. -/
def fetchWhole (fs : FileTree) (root : Option String) (location : String) (limit : Nat) :
    Except CallError Bytes := do
  let path := sourcePath root location
  let size ← openObject fs path
  slice fs path 0 (min limit size)

end Courier.Disk
