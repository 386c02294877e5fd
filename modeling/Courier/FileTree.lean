import Courier.Error
import Courier.Path

/-! A file system as a value: directories and files by their place below the root, a working
directory, and the operations on it with the reasons for which each can refuse. -/
namespace Courier

abbrev Bytes := ByteArray

/-- Names of the directories on the way from the root, and of the thing itself. -/
abbrev Place := List String

inductive Entry where
  | directory
  | file (content : Bytes)

structure FileTree where
  /-- Every place below the root that exists, each once. -/
  entries : List (Place × Entry)
  /-- Where relative paths start. -/
  home : Place

namespace FileTree

def empty (home : Place) : FileTree :=
  ⟨(List.range home.length).map fun n => (home.take (n + 1), .directory), home⟩

def find? (fs : FileTree) (place : Place) : Option Entry :=
  if place.isEmpty then some .directory
  else (fs.entries.find? (·.1 == place)).map (·.2)

def isDirectory (fs : FileTree) (place : Place) : Bool :=
  match fs.find? place with
  | some .directory => true
  | _ => false

def erase (fs : FileTree) (place : Place) : FileTree :=
  { fs with entries := fs.entries.filter (·.1 != place) }

def put (fs : FileTree) (place : Place) (entry : Entry) : FileTree :=
  { fs with entries := fs.entries.filter (·.1 != place) ++ [(place, entry)] }

/-- What a path leads to. -/
structure Target where
  place : Place
  /-- Whether the path can only mean a directory, as one that ends in a slash or in dots. -/
  asDirectory : Bool
  /-- Whether the last segment is a name, and not dots or the root. -/
  isNamed : Bool

def longestName : Nat := 255
def longestPath : Nat := 4095

/-- Follows segments from a place. All but the last have to lead through directories. -/
def follow (fs : FileTree) : Place → List String → Except OsError Target
  | here, [] => .ok ⟨here, true, false⟩
  | here, segment :: rest =>
    if !fs.isDirectory here then .error (if (fs.find? here).isSome then .notDirectory else .noEntry)
    else if segment == "" || segment == "." then follow fs here rest
    else if segment == ".." then follow fs here.dropLast rest
    else if segment.utf8ByteSize > longestName then .error .nameTooLong
    else if rest.isEmpty then .ok ⟨here ++ [segment], false, true⟩
    else if rest.all (· == "") then .ok ⟨here ++ [segment], true, true⟩
    else follow fs (here ++ [segment]) rest

def target (fs : FileTree) (path : String) : Except OsError Target :=
  if path.contains '\x00' then .error .nulInPath
  else if path.isEmpty then .error .noEntry
  else if path.utf8ByteSize > longestPath then .error .nameTooLong
  else
    let segments := (Path.split path.toList).map String.ofList
    follow fs (if path.startsWith "/" then [] else fs.home) segments

/-- What stands at the end of a path; a file does not where only a directory can. -/
def lookup (fs : FileTree) (path : String) : Except OsError (Place × Entry) := do
  let t ← fs.target path
  match fs.find? t.place with
  | none => .error .noEntry
  | some .directory => .ok (t.place, .directory)
  | some (.file content) =>
    if t.asDirectory then .error .notDirectory else .ok (t.place, .file content)

/-- Whether a path can be opened for reading: directories can, though not be read. -/
def canOpen (fs : FileTree) (path : String) : Except OsError Unit := do
  let _ ← fs.lookup path

def read (fs : FileTree) (path : String) : Except OsError Bytes := do
  match ← fs.lookup path with
  | (_, .directory) => .error .isDirectory
  | (_, .file content) => .ok content

/-- A directory's own size, as the system gives it. -/
def directorySize : Nat := 4096

def size (fs : FileTree) (path : String) : Except OsError Nat := do
  match ← fs.lookup path with
  | (_, .directory) => .ok directorySize
  | (_, .file content) => .ok content.size

/-- Where a file may be written: a file that is there, or a name in a directory that is. -/
def writable (fs : FileTree) (path : String) : Except OsError Place := do
  let t ← fs.target path
  match fs.find? t.place with
  | some .directory => .error .isDirectory
  | some (.file _) => if t.asDirectory then .error .notDirectory else .ok t.place
  | none => if t.asDirectory then .error .isDirectory else .ok t.place

/-- Writes a whole file, new or not. -/
def write (fs : FileTree) (path : String) (content : Bytes) : Except OsError FileTree := do
  return fs.put (← fs.writable path) (.file content)

/-- Makes a file empty, or makes an empty file. -/
def create (fs : FileTree) (path : String) : Except OsError FileTree :=
  fs.write path ByteArray.empty

/-- Adds to a file that has been opened; where its name is gone nothing is seen of it. -/
def append (fs : FileTree) (path : String) (more : Bytes) : FileTree :=
  match fs.lookup path with
  | .ok (place, .file content) => fs.put place (.file (content ++ more))
  | _ => fs

def remove (fs : FileTree) (path : String) : Except OsError FileTree := do
  match ← fs.lookup path with
  | (_, .directory) => .error .isDirectory
  | (place, .file _) => .ok (fs.erase place)

def makeDirectory (fs : FileTree) (path : String) : Except OsError FileTree := do
  let t ← fs.target path
  if !t.isNamed || (fs.find? t.place).isSome then .error .alreadyExists
  else .ok (fs.put t.place .directory)

def leadsToDirectory (fs : FileTree) (path : String) : Bool :=
  match fs.lookup path with
  | .ok (_, .directory) => true
  | _ => false

/-- The path without its last named segment; none for the root and for no path at all. -/
def parent? (path : String) : Option String :=
  let named := Path.named path
  let rooted := path.startsWith "/"
  if named.isEmpty then none
  else some (String.ofList (Path.render rooted named.dropLast))

def ensureDirectory (fs : FileTree) (path : String) : Except OsError Unit × FileTree :=
  match fs.makeDirectory path with
  | .ok made => (.ok (), made)
  | .error e => (if fs.leadsToDirectory path then .ok () else .error e, fs)

/-- Makes a directory and those on the way to it, `depth` of them at most. -/
def paveUpTo (fs : FileTree) : (depth : Nat) → (path : String) → Except OsError Unit × FileTree
  | depth, path =>
    if path.isEmpty then (.ok (), fs)
    else match fs.ensureDirectory path with
      | (.error .noEntry, fs) =>
        match depth, parent? path with
        | depth + 1, some parent =>
          match paveUpTo fs depth parent with
          | (.ok (), fs) => fs.ensureDirectory path
          | (.error e, fs) => (.error e, fs)
        | _, _ => (.error .noEntry, fs)
      | made => made

/-- Makes a directory and those on the way to it. Those that could be made stay where one could not. -/
def pave (fs : FileTree) (path : String) : Except OsError Unit × FileTree :=
  fs.paveUpTo (Path.named path).length path

def makeDirectories (fs : FileTree) (path : String) : Except OsError FileTree :=
  match fs.pave path with
  | (.ok (), fs) => .ok fs
  | (.error e, _) => .error e

/-- Puts a file with the directories on the way to it; for setting up a tree. -/
def plant (fs : FileTree) (path : String) (content : Bytes) : FileTree :=
  let dirs := (parent? path).getD ""
  match fs.makeDirectories dirs with
  | .ok fs => (fs.write path content).toOption.getD fs
  | .error _ => fs

/-- The files below the working directory by their paths from there, sorted by their bytes. -/
def files (fs : FileTree) : List (String × Bytes) :=
  let below := fs.entries.filterMap fun (place, entry) =>
    match entry with
    | .directory => none
    | .file content =>
      if fs.home.isPrefixOf place then
        some ("/".intercalate (place.drop fs.home.length), content)
      else none
  below.mergeSort fun a b => a.1 ≤ b.1

end FileTree

end Courier
