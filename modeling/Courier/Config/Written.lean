import Courier.Article.Page
import Courier.Config.Basic

/-! Records as documents, with the field names that their readers know. -/
namespace Courier

open Document (text int bool list table null)

def Document.ofTexts (texts : List String) : Document :=
  .list (texts.map .text)

/-- A text, or null where there is none. -/
def Document.ofText? (value : Option String) : Document :=
  (value.map text).getD null

def RemoteFile.document (file : RemoteFile) : Document :=
  table [("location", text file.location), ("size", int file.size), ("name", text file.name)]

def Rule.document (rule : Rule) : Document :=
  table [("type", text rule.kind.name), ("pattern", text rule.pattern),
    ("storage", text rule.storage), ("dir", text rule.dir)]

def UserRules.document (rules : UserRules) : Document :=
  table [("apply_rule", bool rules.apply), ("rules", list (rules.rules.map Rule.document))]

def StorageEntry.document (entry : StorageEntry) : Document :=
  table [("name", text entry.name), ("type", text entry.kind.name), ("enable", bool entry.enabled),
    ("base_path", .ofText? entry.base)]

def User.document (user : User) : Document :=
  table [("id", int user.id), ("storages", .ofTexts user.storages), ("blacklist", bool user.denies),
    ("apply_rule", bool user.applyRules), ("rules", list (user.rules.map Rule.document))]

def Config.document (config : Config) : Document :=
  table [("workers", int config.workers), ("retry", int config.retries),
    ("temp", table [("base_path", text config.cacheDir),
      ("cache_ttl_secs", int config.cacheSeconds)]),
    ("lookup_ttl_secs", int config.lookupSeconds),
    ("telegraph_concurrency", int config.articleFanout),
    ("log_level", text config.logLevel.name), ("log_file", .ofText? config.logFile),
    ("verbose", bool config.verbose),
    ("storages", list (config.storages.map StorageEntry.document)),
    ("users", list (config.users.map User.document))]

mutual

def Article.Node.document : Article.Node → Document
  | .text content => text content
  | .element tag attributes children =>
    table [("tag", text tag),
      ("attrs", table (attributes.map fun (name, value) => (name, text value))),
      ("children", list (Article.documents children))]

def Article.documents : List Article.Node → List Document
  | [] => []
  | node :: rest => node.document :: Article.documents rest

end

end Courier
