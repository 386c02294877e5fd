import Courier.Error
import Courier.Rule.Basic

/-! Configuration: worker slots, cache, storages and users. -/
namespace Courier

structure StorageEntry where
  name : String
  kind : StorageKind
  enabled : Bool
  /-- Root directory; a storage on disk needs one. -/
  base : Option String
  deriving DecidableEq, Repr, Inhabited

/-- A user's access to storages, and routing rules. -/
structure User where
  id : Int
  /-- The only storages the user may use, or those the user may not. -/
  storages : List String
  denies : Bool
  applyRules : Bool
  rules : List Rule
  deriving DecidableEq, Repr, Inhabited

namespace User

def userRules (user : User) : UserRules :=
  ⟨user.applyRules, user.rules⟩

def mayUse (user : User) (storage : String) : Bool :=
  if user.denies then !user.storages.contains storage else user.storages.contains storage

end User

inductive LogLevel where
  | error
  | warn
  | info
  | debug
  | trace
  deriving DecidableEq, Repr, Inhabited

namespace LogLevel

def name : LogLevel → String
  | error => "error"
  | warn => "warn"
  | info => "info"
  | debug => "debug"
  | trace => "trace"

def ofName? (text : String) : Option LogLevel :=
  [error, warn, info, debug, trace].find? fun level => level.name == text

end LogLevel

structure Config where
  workers : Nat := 3
  /-- Extra attempts after a failed one. -/
  retries : Nat := 3
  cacheDir : String := "cache/"
  /-- Seconds that cache files stay after a transfer; none with zero. -/
  cacheSeconds : Nat := 0
  /-- Seconds that an announced file is remembered. -/
  lookupSeconds : Nat := 86400
  /-- Images fetched at once for one article; as many as workers with zero. -/
  articleFanout : Nat := 0
  logLevel : LogLevel := .info
  logFile : Option String := none
  verbose : Bool := false
  storages : List StorageEntry := []
  users : List User := []
  deriving DecidableEq, Repr, Inhabited

namespace Config

/-- The first entry whose name came before it, or that lacks the base it needs. -/
def storageFault? : (seen : List String) → List StorageEntry → Option ConfigError
  | _, [] => none
  | seen, entry :: rest =>
    if seen.contains entry.name then some (.duplicateStorage entry.name)
    else if entry.kind == .disk && entry.base.isNone then some (.missingBase entry.name)
    else storageFault? (entry.name :: seen) rest

/-- The first user whose id came before. -/
def userFault? : (seen : List Int) → List User → Option ConfigError
  | _, [] => none
  | seen, user :: rest =>
    if seen.contains user.id then some (.duplicateUser user.id)
    else userFault? (user.id :: seen) rest

def validate (config : Config) : Except ConfigError Unit :=
  if config.workers < 1 then .error (.tooFewWorkers config.workers)
  else match storageFault? [] config.storages with
    | some fault => .error fault
    | none =>
      match userFault? [] config.users with
      | some fault => .error fault
      | none => .ok ()

def fanout (config : Config) : Nat :=
  if config.articleFanout == 0 then max config.workers 1 else config.articleFanout

def retention (config : Config) : Option Nat :=
  if config.cacheSeconds > 0 then some config.cacheSeconds else none

def user? (config : Config) (id : Int) : Option User :=
  config.users.find? fun user => user.id == id

def effectiveLevel (config : Config) : LogLevel :=
  if config.verbose then .debug else config.logLevel

end Config

end Courier
