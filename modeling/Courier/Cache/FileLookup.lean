import Courier.Cache.Expiring
import Courier.Task.Basic

/-! Announced files by their digest, for a while. -/
namespace Courier

abbrev FileLookup := ExpiringCache String RemoteFile

namespace FileLookup

/-- Keeps a file under its digest, which is what the announcer gets if the call does not break off. -/
def remember? (lookup : FileLookup) (now : Nat) (file : RemoteFile) : Option (String × FileLookup) :=
  (lookup.insert? now file.hash file).map fun lookup => (file.hash, lookup)

end FileLookup

end Courier
