import Courier.Document

/-! Tables that grow while a configuration text is read. A table remembers how it came to be, since
that decides what may still be added to it. -/
namespace Courier.Toml

inductive Origin where
  /-- Named by its own header, which can be done once. -/
  | header
  /-- Named on the way to another table. -/
  | passing
  /-- Named on the way to a value, by a dotted key. -/
  | dotted
  deriving DecidableEq, Repr

inductive Tree where
  | leaf (value : Document)
  | table (origin : Origin) (entries : List (String × Tree))
  /-- Tables of one header in double brackets, latest first. -/
  | tables (all : List (List (String × Tree)))
  deriving Inhabited

namespace Tree

abbrev Entries := List (String × Tree)

def find? (name : String) (entries : Entries) : Option Tree :=
  (entries.find? (·.1 == name)).map (·.2)

/-- Puts an entry in the place of one of its name, or at the end. -/
def put (name : String) (tree : Tree) : Entries → Entries
  | [] => [(name, tree)]
  | (other, t) :: rest =>
    if other == name then (name, tree) :: rest else (other, t) :: put name tree rest

/-- Changes the entries of a table, or of the latest of several. -/
def change? (f : Entries → Option Entries) : Tree → Option Tree
  | leaf _ => none
  | table origin entries => (f entries).map (table origin)
  | tables [] => none
  | tables (latest :: earlier) => (f latest).map fun entries => tables (entries :: earlier)

/-- Walks to the table of a header's path, making the tables that are missing. -/
def underHeader? (path : List String) (f : Entries → Option Entries) (entries : Entries) :
    Option Entries :=
  match path with
  | [] => f entries
  | name :: rest => do
    let next := (find? name entries).getD (table .passing [])
    let changed ← next.change? (underHeader? rest f)
    return put name changed entries

/-- Opens a table by its header. A table that was only passed on the way to another may be opened. -/
def openTable? (name : String) (entries : Entries) : Option Entries :=
  match find? name entries with
  | none => some (put name (table .header []) entries)
  | some (table .passing inner) => some (put name (table .header inner) entries)
  | some _ => none

/-- Adds one more table to those of a header in double brackets. -/
def appendTable? (name : String) (entries : Entries) : Option Entries :=
  match find? name entries with
  | none => some (put name (tables [[]]) entries)
  | some (tables all) => some (put name (tables ([] :: all)) entries)
  | some _ => none

def isDotted : Tree → Bool
  | table .dotted _ => true
  | _ => false

/-- A table with a header of its own does not take dotted keys from elsewhere. -/
def isClosed : Tree → Bool
  | table .header _ => true
  | leaf _ => true
  | _ => false

/-- Adds a value under a dotted key. The last table on the way has to have come from such a key. -/
def insert? (path : List String) (name : String) (value : Document) (entries : Entries) :
    Option Entries :=
  match path with
  | [] => if (find? name entries).isSome then none else some (put name (leaf value) entries)
  | first :: rest => do
    let next := (find? first entries).getD (table .dotted [])
    if next.isClosed || (rest.isEmpty && !next.isDotted) then none
    let changed ← next.change? (insert? rest name value)
    return put first changed entries

mutual

def toDocument : Tree → Document
  | leaf value => value
  | table _ entries => .table (entriesToFields entries)
  | tables all => .list (tablesToList all).reverse

def entriesToFields : List (String × Tree) → List (String × Document)
  | [] => []
  | (name, tree) :: rest => (name, toDocument tree) :: entriesToFields rest

def tablesToList : List (List (String × Tree)) → List Document
  | [] => []
  | entries :: rest => .table (entriesToFields entries) :: tablesToList rest

end

end Tree

end Courier.Toml
