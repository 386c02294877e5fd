import Courier.Json.Parser
import Courier.Unicode.Property

/-! Orders to the command, one JSON record a line. The kind of an order is its field `op`, or the
first item of an order written as a list. -/
namespace Courier.Command

open Document

/-- What to save, for whom and where. -/
structure SaveOrder where
  path : Option String
  /-- The digest of an announced file; it counts before a path. -/
  hash : Option String
  name : Option String
  size : Option Nat
  chat : Int
  post : Int
  storage : String
  user : Int
  /-- Relative destination; the name of the file if empty. -/
  dest : String
  /-- Text of the message, for rules. -/
  text : Option String
  deriving DecidableEq, Repr

inductive Order where
  | save (order : SaveOrder)
  | announce (path : String)
  | cancel (chat post : Int)
  deriving DecidableEq, Repr

def saveFields : List String :=
  ["path", "hash", "name", "size", "chat_id", "message_id", "storage", "user_id", "dest", "message"]

/-- A list of a save order's fields has to have all of them. -/
def isWhole : Document → Bool
  | .list items => items.length == saveFields.length
  | _ => true

def readSave : Reader SaveOrder := fun dialect d => do
  let [path, hash, name, size, chat, post, storage, user, dest, message] ←
    readFields saveFields dialect d | none
  if !isWhole d then none
  return {
    path := ← optional none (readNullable readText) dialect path
    hash := ← optional none (readNullable readText) dialect hash
    name := ← optional none (readNullable readText) dialect name
    size := ← optional none (readNullable (readNat greatest64)) dialect size
    chat := ← required readInt64 dialect chat
    post := ← required readInt64 dialect post
    storage := ← required readText dialect storage
    user := ← required readInt64 dialect user
    dest := ← optional "" readText dialect dest
    text := ← optional none (readNullable readText) dialect message }

def readAnnounce : Reader String := fun dialect d => do
  let [path] ← readFields ["path"] dialect d | none
  required readText dialect path

def readCancel : Reader (Int × Int) := fun dialect d => do
  let [chat, post] ← readFields ["chat_id", "message_id"] dialect d | none
  return (← required readInt64 dialect chat, ← required readInt64 dialect post)

/-- The kind of an order, and its other fields. -/
def tagged? : Document → Option (String × Document)
  | .table fields =>
    match fields.filter (·.1 == "op") with
    | [(_, .text kind)] => some (kind, .table (fields.filter (·.1 != "op")))
    | _ => none
  | .list (.text kind :: rest) => some (kind, .list rest)
  | _ => none

def Order.reader : Reader Order := fun dialect d => do
  let (kind, fields) ← tagged? d
  match kind with
  | "save" => (readSave dialect fields).map .save
  | "announce" => (readAnnounce dialect fields).map .announce
  | "cancel" => (readCancel dialect fields).map fun (chat, post) => .cancel chat post
  | _ => none

def trimmed (line : String) : List Char :=
  let blank := Unicode.blanks.mem
  ((line.toList.dropWhile blank).reverse.dropWhile blank).reverse

def Order.ofLine? (line : List Char) : Option Order :=
  (Json.parse? (String.ofList line)).bind (Order.reader Json.dialect)

end Courier.Command
