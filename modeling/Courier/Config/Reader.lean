import Courier.Config.Basic
import Courier.FileTree
import Courier.Toml.Parser

/-! Reading a configuration out of a document, a text or a file. -/
namespace Courier

open Document

def StorageEntry.reader : Reader StorageEntry := fun dialect d => do
  let [name, kind, enabled, base] ← readFields ["name", "type", "enable", "base_path"] dialect d
    | none
  return {
    name := ← required readText dialect name
    kind := ← required (readChoice StorageKind.ofName?) dialect kind
    enabled := ← optional true readBool dialect enabled
    base := ← optional none (readNullable readText) dialect base }

def User.reader : Reader User := fun dialect d => do
  let [id, storages, denies, applyRules, rules] ←
    readFields ["id", "storages", "blacklist", "apply_rule", "rules"] dialect d | none
  return {
    id := ← required readInt64 dialect id
    storages := ← optional [] (readList readText) dialect storages
    denies := ← optional false readBool dialect denies
    applyRules := ← optional false readBool dialect applyRules
    rules := ← optional [] (readList Rule.reader) dialect rules }

namespace Config

def cacheReader : Reader (String × Nat) := fun dialect d => do
  let [dir, seconds] ← readFields ["base_path", "cache_ttl_secs"] dialect d | none
  return (← optional "cache/" readText dialect dir, ← optional 0 (readNat greatest64) dialect seconds)

def fieldNames : List String :=
  ["workers", "retry", "temp", "lookup_ttl_secs", "telegraph_concurrency", "log_level", "log_file",
    "verbose", "storages", "users"]

def reader : Reader Config := fun dialect d => do
  let [workers, retries, cache, lookup, fanout, level, file, verbose, storages, users] ←
    readFields fieldNames dialect d | none
  let (cacheDir, cacheSeconds) ← optional ("cache/", 0) cacheReader dialect cache
  return {
    workers := ← optional 3 (readNat greatest64) dialect workers
    retries := ← optional 3 (readNat greatest32) dialect retries
    cacheDir, cacheSeconds
    lookupSeconds := ← optional 86400 (readNat greatest64) dialect lookup
    articleFanout := ← optional 0 (readNat greatest64) dialect fanout
    logLevel := ← optional .info (readChoice LogLevel.ofName?) dialect level
    logFile := ← optional none (readNullable readText) dialect file
    verbose := ← optional false readBool dialect verbose
    storages := ← optional [] (readList StorageEntry.reader) dialect storages
    users := ← optional [] (readList User.reader) dialect users }

/-- Reads and validates a configuration text. -/
def ofText (text : String) : Except ConfigError Config := do
  let some config := (Toml.parse? text).bind (reader Toml.dialect) | .error .malformed
  config.validate
  return config

/-- Reads and validates what was found in a configuration file. -/
def ofContent (path : String) : Except OsError Bytes → Except ConfigError Config
  | .error cause => .error (.unreadable path cause)
  | .ok content =>
    match String.fromUTF8? content with
    | none => .error (.unreadable path .notText)
    | some source => ofText source

end Config

end Courier
