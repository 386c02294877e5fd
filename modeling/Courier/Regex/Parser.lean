import Courier.Regex.Bracket

/-! Patterns as expressions. Groups that are still open are kept on a stack; flags hold from where
they are set to the end of the innermost group. -/
namespace Courier.Regex

open Text (moved)

/-- What stands before an open group. -/
structure Frame where
  captures : Bool
  branches : List Expr
  items : List Expr
  flags : Flags

/-- Where a parser stands: open groups, finished choices and parts of the current one, the last of
each first, and the names given to groups. -/
structure State where
  frames : List Frame
  branches : List Expr
  items : List Expr
  flags : Flags
  names : List (List Char)

def sequence (parts : List Expr) : Expr :=
  match parts with
  | [] => .empty
  | [e] => e
  | _ => .concat parts

def choice (choices : List Expr) : Expr :=
  match choices with
  | [e] => e
  | _ => .alternate choices

namespace State

def add (s : State) (e : Expr) : State :=
  { s with items := e :: s.items }

def finish (s : State) : Expr :=
  choice (sequence s.items.reverse :: s.branches).reverse

def openGroup (s : State) (captures : Bool) (inner : Flags) : State :=
  { s with
    frames := ⟨captures, s.branches, s.items, s.flags⟩ :: s.frames
    branches := [], items := [], flags := inner }

def closeGroup? (s : State) : Option State :=
  match s.frames with
  | [] => none
  | frame :: frames => some { s with
      frames
      branches := frame.branches
      items := .group frame.captures s.finish :: frame.items
      flags := frame.flags }

/-- Repeats the last part, if there is one that can be repeated. -/
def repeatLast? (s : State) (least : Nat) (most : Option Nat) : Option State :=
  match s.items with
  | [] | .empty :: _ | .mark :: _ => none
  | e :: rest => some { s with items := .repeated e least most :: rest }

end State

/-- Flags up to the mark that ends them, each given once, with at most one minus. -/
def flags? (f : Flags) (seen : List Char) (on : Bool) : List Char →
    Option (Flags × Bool × List Char)
  | [] => none
  | c :: rest =>
    if c == ':' || c == ')' then
      if seen.head? == some '-' then none
      else if c == ')' && seen.isEmpty then none
      else some (f, c == ':', rest)
    else if seen.contains c then none
    else if c == '-' then flags? f ('-' :: seen) false rest
    else
      match f.set c on with
      | none => none
      | some f => flags? f (c :: seen) on rest

def isNameStart (c : Char) : Bool :=
  c == '_' || Unicode.alphabetic.mem c

def isNameRest (c : Char) : Bool :=
  isNameStart c || c == '.' || c == '[' || c == ']' || (Unicode.ofCategories [8, 9, 10]).mem c

/-- A name up to its closing angle, unlike the names before it. -/
def groupName? (names : List (List Char)) (cs : List Char) : Option (List Char × List Char) :=
  let name := cs.takeWhile (· != '>')
  match cs.dropWhile (· != '>'), name with
  | _ :: rest, first :: more =>
    if isNameStart first && more.all isNameRest && !names.contains name then some (name, rest)
    else none
  | _, _ => none

/-- A group or a setting of flags, after the opening parenthesis. -/
def group? (s : State) (cs : List Char) : Option (State × List Char) :=
  let named (body : List Char) := (groupName? s.names body).map fun (name, rest) =>
    ({ s with names := name :: s.names }.openGroup true s.flags, rest)
  match s.flags.skip cs with
  | '?' :: '=' :: _ | '?' :: '!' :: _ | '?' :: '<' :: '=' :: _ | '?' :: '<' :: '!' :: _ => none
  | '?' :: 'P' :: '<' :: body => named body
  | '?' :: '<' :: body => named body
  | '?' :: body =>
    (flags? s.flags [] true body).map fun (f, opens, rest) =>
      (if opens then s.openGroup false f else { s.add .mark with flags := f }, rest)
  | rest => some (s.openGroup true s.flags, rest)

def count? (f : Flags) (cs : List Char) : Option (Nat × List Char) :=
  let cs := cs.dropWhile isBlank
  let inCount (c : Char) := c.isDigit || (f.verbose && isBlank c)
  let digits := (cs.takeWhile inCount).filter Char.isDigit
  let n := Text.numeral 10 digits
  if digits.isEmpty || n ≥ 0x100000000 then none
  else some (n, f.skip ((cs.dropWhile inCount).dropWhile isBlank))

/-- The bounds of a repetition in braces, after the opening one. -/
def bounds? (f : Flags) (cs : List Char) : Option (Nat × Option Nat × List Char) := do
  let (least, rest) ← count? f (f.skip cs)
  match rest with
  | '\x7d' :: rest => return (least, some least, rest)
  | ',' :: rest =>
    match f.skip rest with
    | '\x7d' :: rest => return (least, none, rest)
    | rest =>
      let (most, rest) ← count? f rest
      match rest with
      | '\x7d' :: rest => if least ≤ most then return (least, some most, rest) else none
      | _ => none
  | _ => none

/-- A question mark after a repetition only says which match is taken. -/
def skipLazy : List Char → List Char
  | '?' :: rest => rest
  | cs => cs

def lineStart (f : Flags) : Look :=
  if !f.multiLine then .start else if f.crlf then .crlfStart else .lineStart

def lineStop (f : Flags) : Look :=
  if !f.multiLine then .stop else if f.crlf then .crlfStop else .lineStop

/-- Takes in what comes next. -/
def step? (s : State) (cs : List Char) : Option (State × List Char) :=
  match cs with
  | [] => none
  | c :: rest =>
    let repeated (least : Nat) (most : Option Nat) :=
      (s.repeatLast? least most).map fun s => (s, skipLazy rest)
    match c with
    | '(' => group? s rest
    | ')' => s.closeGroup?.map fun s => (s, rest)
    | '|' => some ({ s with branches := sequence s.items.reverse :: s.branches, items := [] }, rest)
    | '[' => (class? s.flags rest).map fun (n, rest) => (s.add (.bracket n.depth n.set), rest)
    | '?' => repeated 0 (some 1)
    | '*' => repeated 0 none
    | '+' => repeated 1 none
    | '\x7b' => do
      let (least, most, rest) ← bounds? s.flags rest
      let s ← s.repeatLast? least most
      return (s, skipLazy (s.flags.skip rest))
    | '.' => s.flags.dot?.map fun set => (s.add (.char set), rest)
    | '^' => some (s.add (.look (lineStart s.flags)), rest)
    | '$' => some (s.add (.look (lineStop s.flags)), rest)
    | '\\' => do
      let (atom, rest) ← escape? s.flags rest
      match atom with
      | .literal c => return (s.add (.char (s.flags.literal c)), rest)
      | .set set => return (s.add (.char set), rest)
      | .look kind => return (s.add (.look kind), rest)
    | _ => some (s.add (.char (s.flags.literal c)), rest)

/-- Takes in all that is left. -/
def steps? (s : State) (cs : List Char) : Option State :=
  match s.flags.skip cs with
  | [] => some s
  | start =>
    match moved cs (step? s start) with
    | none => none
    | some (s, r) => steps? s r.1
termination_by cs.length
decreasing_by exact r.2

/-- The expression of a pattern, if it is one, not nested too deeply, and not too large. -/
def parse? (pattern : String) : Option Expr := do
  let s ← steps? ⟨[], [], [], {}, []⟩ pattern.toList
  if !s.frames.isEmpty then none
  let e := s.finish
  if e.depth > Expr.depthLimit || e.size > Expr.sizeLimit then none
  return e

end Courier.Regex
