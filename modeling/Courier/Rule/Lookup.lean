import Courier.Config.Basic

/-! What is known of users and messages: the rules come from configuration, and the text of a
message has to be recorded by whoever submits its task. -/
namespace Courier

/-- The rules of a user; of several entries with one id the last one counts. -/
def Config.rulesFor (config : Config) (user : Int) : Except CallError UserRules :=
  match config.users.findRev? (·.id == user) with
  | some entry => .ok entry.userRules
  | none => .error (.notFound ("user " ++ toString user))

/-- Texts of messages by chat and post, the last record of each. -/
structure MessageTexts where
  entries : List ((Int × Int) × String)
  deriving DecidableEq, Repr

namespace MessageTexts

def empty : MessageTexts := ⟨[]⟩

def record (texts : MessageTexts) (chat post : Int) (text : String) : MessageTexts :=
  ⟨((chat, post), text) :: texts.entries.filter (·.1 != (chat, post))⟩

def get? (texts : MessageTexts) (chat post : Int) : Option String :=
  (texts.entries.find? (·.1 == (chat, post))).map (·.2)

end MessageTexts

end Courier
