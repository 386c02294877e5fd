import Courier.Error
import Courier.Rule.Basic

/-! Rules with their patterns compiled. -/
namespace Courier

/-- Compiles a pattern to the test of a subject, or says why it is none. -/
abbrev PatternCompiler := String → Except String (String → Bool)

structure CompiledRule where
  rule : Rule
  isMatch : String → Bool

def CompiledRule.compile (patterns : PatternCompiler) (rule : Rule) :
    Except TransferError CompiledRule :=
  match patterns rule.pattern with
  | .ok isMatch => .ok ⟨rule, isMatch⟩
  | .error reason => .error (.invalidRule rule.pattern reason)

end Courier
