import Courier.Storage.Kind
import Courier.Task.Basic

/-! Causes of failure, and the text of each. -/
namespace Courier

/-- Why the file system refused. -/
inductive OsError where
  | noEntry
  | alreadyExists
  | notDirectory
  | isDirectory
  | nameTooLong
  | nulInPath
  /-- The bytes of a file that has to be text are not UTF-8. -/
  | notText
  /-- A failure that brings its own text. -/
  | reported (text : String)
  deriving DecidableEq, Repr, Inhabited

def OsError.message : OsError → String
  | noEntry => "No such file or directory (os error 2)"
  | alreadyExists => "File exists (os error 17)"
  | notDirectory => "Not a directory (os error 20)"
  | isDirectory => "Is a directory (os error 21)"
  | nameTooLong => "File name too long (os error 36)"
  | nulInPath => "file name contained an unexpected NUL byte"
  | notText => "stream did not contain valid UTF-8"
  | reported text => text

def InvalidTransition.message (step : InvalidTransition) : String :=
  "Invalid status transition: " ++ step.source.name ++ " -> " ++ step.target.name

/-- Failures of a source, a storage, or another capability that the engine calls. -/
inductive CallError where
  | notFound (what : String)
  | network (reason : String)
  | unsupported (capability operation : String)
  | os (cause : OsError)
  | canceled
  | transition (step : InvalidTransition)
  | other (reason : String)
  deriving DecidableEq, Repr, Inhabited

namespace CallError

def message : CallError → String
  | notFound what => "Not found: " ++ what
  | network reason => "Network error: " ++ reason
  | unsupported capability operation => capability ++ " does not support " ++ operation
  | os cause => "I/O error: " ++ cause.message
  | canceled => "Operation canceled"
  | transition step => step.message
  | other reason => reason

def isCanceled : CallError → Bool
  | canceled => true
  | _ => false

end CallError

inductive ConfigError where
  | tooFewWorkers (workers : Nat)
  | duplicateStorage (name : String)
  | missingBase (storage : String)
  | duplicateUser (id : Int)
  | unreadable (path : String) (cause : OsError)
  /-- The text is no document, or the document does not fit. -/
  | malformed
  | other (reason : String)
  deriving DecidableEq, Repr

def ConfigError.message : ConfigError → String
  | tooFewWorkers workers => "workers must be at least 1, got " ++ toString workers
  | duplicateStorage name => "duplicate storage name: " ++ name
  | missingBase storage => "local storage " ++ storage ++ " needs a base_path"
  | duplicateUser id => "duplicate user id: " ++ toString id
  | unreadable path cause => path ++ ": " ++ cause.message
  | malformed => "malformed configuration"
  | other reason => reason

inductive ArticleError where
  | notConfigured
  | invalidLink (link : String)
  | pageFailed (slug : String) (cause : CallError)
  | noImages (slug : String)
  | imageFailed (number : Nat) (link : String) (attempts : Nat) (cause : CallError)
  | other (reason : String)
  deriving DecidableEq, Repr

def ArticleError.message : ArticleError → String
  | notConfigured => "telegraph client is not configured"
  | invalidLink link => "invalid page url: " ++ link
  | pageFailed slug cause => "failed to fetch page " ++ slug ++ ": " ++ cause.message
  | noImages slug => "no images found on " ++ slug
  | imageFailed number link attempts cause =>
    "image " ++ toString number ++ " (" ++ link ++ ") failed after " ++ toString attempts ++
      " attempt(s): " ++ cause.message
  | other reason => reason

/-- Why a transfer, or a step on the way to one, failed. -/
inductive TransferError where
  | storageNotFound (name : String)
  | storageDenied (user : Int) (name : String)
  | storageUnavailable (name : String) (kind : StorageKind)
  | invalidRule (pattern reason : String)
  | fetch (cause : CallError)
  | shortRead (expected actual : Nat)
  | saveFailed (attempts : Nat) (cause : CallError)
  | file (path : String) (cause : OsError)
  | article (cause : ArticleError)
  | config (cause : ConfigError)
  | canceled
  | call (cause : CallError)
  deriving DecidableEq, Repr

namespace TransferError

def message : TransferError → String
  | storageNotFound name => "Storage not found: " ++ name
  | storageDenied user name => "User " ++ toString user ++ " may not use storage " ++ name
  | storageUnavailable name kind =>
    "Storage type " ++ kind.name ++ " for " ++ name ++ " must be registered by the embedder"
  | invalidRule pattern reason => "Invalid rule pattern '" ++ pattern ++ "': " ++ reason
  | fetch cause => "Fetch failed: " ++ cause.message
  | shortRead expected actual =>
    "Short read: expected " ++ toString expected ++ " bytes, got " ++ toString actual
  | saveFailed attempts cause =>
    "Failed to save after " ++ toString attempts ++ " attempt(s): " ++ cause.message
  | file path cause => "Local I/O error on " ++ path ++ ": " ++ cause.message
  | article cause => "Telegraph error: " ++ cause.message
  | config cause => "Configuration error: " ++ cause.message
  | canceled => "Task canceled"
  | call cause => cause.message

/-- Whether the failure ends a task as canceled rather than failed. -/
def isCanceled : TransferError → Bool
  | canceled => true
  | fetch cause | call cause | saveFailed _ cause => cause.isCanceled
  | _ => false

/-- Whether the failure is one of routing, which a rule may meet without harm. -/
def isRouting : TransferError → Bool
  | storageNotFound _ | storageDenied .. | invalidRule .. => true
  | _ => false

end TransferError

end Courier
