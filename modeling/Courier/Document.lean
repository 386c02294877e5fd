/-! Structured documents, and reading records, lists and scalars out of them. A record may be written
as a table of named fields or as the list of its fields in order. -/
namespace Courier

inductive Document where
  | null
  | bool (value : Bool)
  | int (value : Int)
  /-- A number that is not an integer, as written. -/
  | real (text : String)
  | text (value : String)
  | list (items : List Document)
  | table (fields : List (String × Document))
  deriving Repr, Inhabited

namespace Document

/-- The written forms that differ between document languages. -/
structure Dialect where
  /-- Whether a record written as a list may have more items than the record has fields. -/
  extraItems : Bool
  /-- What may stand for nothing beside the name of a choice. -/
  isUnit : Document → Bool

/-- A reader of one kind of value; nothing where the document does not fit. -/
abbrev Reader (α : Type) := Dialect → Document → Option α

def readBool : Reader Bool
  | _, bool value => some value
  | _, _ => none

def readText : Reader String
  | _, text value => some value
  | _, _ => none

def readInt (low high : Int) : Reader Int
  | _, int value => if low ≤ value ∧ value ≤ high then some value else none
  | _, _ => none

def readNat (greatest : Nat) : Reader Nat := fun dialect d =>
  (readInt 0 greatest dialect d).map Int.toNat

/-- The greatest numbers of 32 and of 64 bits. -/
def greatest32 : Nat := 0xFFFFFFFF
def greatest64 : Nat := 0xFFFFFFFFFFFFFFFF

def readInt64 : Reader Int :=
  readInt (-0x8000000000000000) 0x7FFFFFFFFFFFFFFF

def readList {α : Type} (item : Reader α) : Reader (List α)
  | dialect, list items => items.mapM (item dialect)
  | _, _ => none

def readNullable {α : Type} (item : Reader α) : Reader (Option α)
  | _, null => some none
  | dialect, d => (item dialect d).map some

/-- Names with their texts; the last of several fields of one name counts. -/
def readTexts : Reader (List (String × String))
  | dialect, table fields =>
    fields.foldlM (fun found (name, d) => do
      let value ← readText dialect d
      return found.filter (·.1 != name) ++ [(name, value)]) []
  | _, _ => none

/-- One of some choices by name: the name alone, or a table of it and nothing else. -/
def readChoice {α : Type} (ofName? : String → Option α) : Reader α
  | _, text name => ofName? name
  | dialect, table [(name, d)] => if dialect.isUnit d then ofName? name else none
  | _, _ => none

/-- The fields of a record in the order of their names. No field may be given twice, and fields of
other names do not matter. -/
def readFields (names : List String) : Reader (List (Option Document))
  | _, table fields =>
    names.mapM fun name =>
      match fields.filter (·.1 == name) with
      | [] => some none
      | [field] => some (some field.2)
      | _ => none
  | dialect, list items =>
    if names.length < items.length && !dialect.extraItems then none
    else some (names.zipIdx.map fun (_, i) => items[i]?)
  | _, _ => none

def required {α : Type} (item : Reader α) (dialect : Dialect) (field : Option Document) : Option α :=
  field.bind (item dialect)

/-- A field that has a value of its own when it is not there. -/
def optional {α : Type} (value : α) (item : Reader α) (dialect : Dialect)
    (field : Option Document) : Option α :=
  match field with
  | some d => item dialect d
  | none => some value

end Document

end Courier
