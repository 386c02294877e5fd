import Courier.FileTree

/-! Scripted faults: what calls of a capability do before, or instead of, what they are for. Each
call takes one entry. -/
namespace Courier.Sandbox

inductive Effect where
  /-- Go on as without a script. -/
  | pass
  | fail (error : CallError)
  /-- Succeed at once, with these bytes where the call is for bytes. -/
  | give (bytes : Bytes)

structure Fault where
  delay : Nat := 0
  /-- Whether the call cancels the task that it is made for. -/
  cancels : Bool := false
  effect : Effect := .pass

abbrev Script := List Fault

def Script.next : Script → Fault × Script
  | [] => ({}, [])
  | fault :: rest => (fault, rest)

end Courier.Sandbox
