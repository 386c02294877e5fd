import Courier.Regex.Escape

/-! Classes in brackets: characters, ranges, escapes, named and nested classes, and the three
operations between them, all of one strength and taken from the left. -/
namespace Courier.Regex

open Text (moved)
open Unicode (CharSet)

structure Nested where
  depth : Nat
  set : CharSet

inductive SetOp where
  | intersection
  | difference
  | symmetric

/-- Something open: a bracket with the items before it, or an operation with its left side. -/
inductive Open where
  | bracket (negated : Bool) (items : List Nested)
  | op (kind : SetOp) (left : Nested)

/-- The union of items; two or more are a level of nesting. -/
def unite (items : List Nested) : Nested :=
  match items with
  | [] => ⟨0, []⟩
  | [item] => item
  | _ => ⟨items.foldl (fun d item => max d item.depth) 0 + 1,
      CharSet.normalize (items.flatMap (·.set))⟩

def SetOp.apply (f : Flags) (kind : SetOp) (left right : Nested) : Nested :=
  let a := f.fold left.set
  let b := f.fold right.set
  let set := match kind with
    | intersection => a.inter b
    | difference => a.diff b
    | symmetric => a.symmDiff b
  ⟨max left.depth right.depth + 1, set⟩

/-- Ends an operation that waits for its right side, if one does. -/
def endOp (f : Flags) (right : Nested) : List Open → Nested × List Open
  | .op kind left :: stack => (kind.apply f left right, stack)
  | stack => (right, stack)

/-- After an opening bracket: whether it is negated, and the characters that count as themselves
only here: hyphens, and a closing bracket in front. -/
def opening? (f : Flags) (cs : List Char) : Option (Bool × List Nested × List Char) :=
  let cs := f.skip cs
  let (negated, cs) := match cs with
    | '^' :: rest => (true, f.skip rest)
    | _ => (false, cs)
  let hyphens := cs.takeWhile (· == '-')
  let rest := if hyphens.isEmpty then cs else f.skip (cs.dropWhile (· == '-'))
  let items := hyphens.map fun c => (⟨0, .single c⟩ : Nested)
  match rest with
  | [] => none
  | ']' :: after =>
    if hyphens.isEmpty then
      let after := f.skip after
      if after.isEmpty then none else some (negated, [⟨0, .single ']'⟩], after)
    else some (negated, items, rest)
  | _ => some (negated, items, rest)

def named? (f : Flags) (cs : List Char) : Option (Nested × List Char) := do
  let (negated, cs) := match cs with
    | '^' :: rest => (true, rest)
    | _ => (false, cs)
  let name := cs.takeWhile (· != ':')
  match cs.dropWhile (· != ':') with
  | ':' :: ']' :: rest =>
    let s ← asciiClass? (String.ofList name)
    return (⟨0, ← f.negate? negated (f.fold s)⟩, rest)
  | _ => none

/-- A character or an escape in a class; without Unicode the character has to be an ASCII one. -/
def classItem? (f : Flags) (cs : List Char) : Option (Atom × List Char) := do
  let (atom, rest) ← match cs with
    | '\\' :: rest => escape? f rest
    | c :: rest => some (.literal c, rest)
    | [] => none
  match atom with
  | .literal c => if f.unicode || c.toNat < 0x80 then some (atom, rest) else none
  | _ => some (atom, rest)

def rangeOrItem? (f : Flags) (cs : List Char) : Option (Nested × List Char) := do
  let (first, rest) ← classItem? f cs
  let rest := f.skip rest
  let alone : Option (Nested × List Char) := match first with
    | .literal c => some (⟨0, .single c⟩, rest)
    | .set s => some (⟨0, s⟩, rest)
    | .look _ => none
  match rest with
  | [] => none
  | '-' :: afterHyphen =>
    let next := (f.skip afterHyphen).head?
    if next == some ']' || next == some '-' then alone
    else
      let (second, rest) ← classItem? f (f.skip afterHyphen)
      match first, second with
      | .literal a, .literal b =>
        if a.toNat ≤ b.toNat then some (⟨0, [(a.toNat, b.toNat)]⟩, rest) else none
      | _, _ => none
  | _ => alone

/-- The rest of a class: what is open, innermost first, and the items of the innermost bracket. -/
def classRest? (f : Flags) (stack : List Open) (items : List Nested) (cs : List Char) :
    Option (Nested × List Char) :=
  let continue? (next : Option ((List Open × List Nested) × List Char)) :=
    match moved cs next with
    | none => none
    | some ((stack, items), r) => classRest? f stack items r.1
  let operation (kind : SetOp) (rest : List Char) :=
    let (left, stack) := endOp f (unite items) stack
    continue? (some ((.op kind left :: stack, []), rest))
  match f.skip cs with
  | [] => none
  | '[' :: rest =>
    let asNamed := match rest with
      | ':' :: body => named? f body
      | _ => none
    match asNamed with
    | some (item, after) => continue? (some ((stack, items ++ [item]), after))
    | none =>
      continue? ((opening? f rest).map fun (negated, inner, after) =>
        ((.bracket negated items :: stack, inner), after))
  | ']' :: rest =>
    let (whole, stack) := endOp f (unite items) stack
    match stack with
    | .bracket negated outer :: stack =>
      match f.negate? negated (f.fold whole.set) with
      | none => none
      | some set =>
        let closed : Nested := ⟨whole.depth + 1, set⟩
        if stack.isEmpty then some (closed, rest)
        else continue? (some ((stack, outer ++ [closed]), rest))
    | _ => none
  | '&' :: '&' :: rest => operation .intersection rest
  | '-' :: '-' :: rest => operation .difference rest
  | '~' :: '~' :: rest => operation .symmetric rest
  | start =>
    continue? ((rangeOrItem? f start).map fun (item, rest) => ((stack, items ++ [item]), rest))
termination_by cs.length
decreasing_by exact r.2

def class? (f : Flags) (cs : List Char) : Option (Nested × List Char) := do
  let (negated, items, rest) ← opening? f cs
  classRest? f [.bracket negated []] items rest

end Courier.Regex
