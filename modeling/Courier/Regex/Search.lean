import Courier.Regex.Parser

/-! Searching: an expression becomes a list of instructions, and all ways through them are followed
at once, one character of the subject after another. -/
namespace Courier.Regex

open Unicode (CharSet)

inductive Instruction where
  /-- Takes a character of a set and goes on to the next instruction. -/
  | char (set : CharSet)
  | look (kind : Look)
  /-- Goes on at both of two distances ahead or behind. -/
  | fork (first second : Int)
  deriving Inhabited

namespace Expr

mutual

/-- The instructions of an expression, which go on at the instruction after their last. -/
def compile : Expr → List Instruction
  | empty | mark => []
  | char set | bracket _ set => [.char set]
  | look kind => [.look kind]
  | group _ body => body.compile
  | repeated body least most =>
    let code := body.compile
    let n : Int := code.length
    let front := (List.replicate least code).flatten
    match most with
    | none => front ++ .fork 1 (n + 2) :: code ++ [.fork (-n - 1) 1]
    | some most =>
      let optional := Instruction.fork 1 (n + 1) :: code
      front ++ (List.replicate (most - least) optional).flatten
  | concat parts => compileAll parts
  | alternate choices => compileChoices choices

def compileAll : List Expr → List Instruction
  | [] => []
  | e :: rest => e.compile ++ compileAll rest

def compileChoices : List Expr → List Instruction
  | [] => []
  | [e] => e.compile
  | e :: rest =>
    let code := e.compile
    let others := compileChoices rest
    .fork 1 (code.length + 2) :: code ++ .fork (others.length + 1) (others.length + 1) :: others

end

end Expr

structure Program where
  code : Array Instruction

def isWordAt (set : CharSet) : Option Char → Bool
  | some c => set.mem c
  | none => false

/-- Whether a condition holds between two characters, or at an end of the subject. -/
def Look.holds (kind : Look) (before after : Option Char) : Bool :=
  match kind with
  | start => before.isNone
  | stop => after.isNone
  | lineStart => before.isNone || before == some '\n'
  | lineStop => after.isNone || after == some '\n'
  | crlfStart =>
    before.isNone || before == some '\n' || (before == some '\r' && after != some '\n')
  | crlfStop =>
    after.isNone || after == some '\r' || (after == some '\n' && before != some '\r')
  | word set => isWordAt set before != isWordAt set after
  | notWord set => isWordAt set before == isWordAt set after
  | wordStart set => !isWordAt set before && isWordAt set after
  | wordStop set => isWordAt set before && !isWordAt set after
  | wordStartHalf set => !isWordAt set before
  | wordStopHalf set => !isWordAt set after

namespace Program

/-- Follows forks and conditions from the places still to visit. Every place is entered once; the
fuel counts those entries. -/
def close (p : Program) (before after : Option Char) : (fuel : Nat) → (todo : List Nat) →
    (seen : Array Bool) → Array Bool
  | 0, _, seen => seen
  | _, [], seen => seen
  | fuel + 1, place :: todo, seen =>
    if seen.getD place true then close p before after fuel todo seen
    else
      let seen := seen.setIfInBounds place true
      match p.code[place]? with
      | some (.fork a b) =>
        close p before after fuel ((place + a).toNat :: (place + b).toNat :: todo) seen
      | some (.look kind) =>
        if kind.holds before after then close p before after fuel ((place + 1) :: todo) seen
        else close p before after fuel todo seen
      | _ => close p before after fuel todo seen

/-- The places that can be reached from some without taking a character. -/
def reach (p : Program) (before after : Option Char) (places : List Nat) : Array Bool :=
  close p before after (3 * p.code.size + places.length + 3) places
    (Array.replicate (p.code.size + 1) false)

def advance (p : Program) (reached : Array Bool) (c : Char) : List Nat :=
  (List.range p.code.size).filterMap fun place =>
    if reached.getD place false then
      match p.code[place]? with
      | some (.char set) => if set.mem c then some (place + 1) else none
      | _ => none
    else none

/-- Whether a match ends here or later; a new one may start at every position. -/
def matchesFrom (p : Program) (before : Option Char) (places : List Nat) : List Char → Bool
  | [] => (p.reach before none (0 :: places)).getD p.code.size false
  | c :: rest =>
    let reached := p.reach before (some c) (0 :: places)
    reached.getD p.code.size false || matchesFrom p (some c) (p.advance reached c) rest

end Program

/-- A compiled pattern. -/
structure Matcher where
  program : Program

/-- Compiles a pattern; nothing if it is none. -/
def compile? (pattern : String) : Option Matcher :=
  (parse? pattern).map fun e => ⟨⟨e.compile.toArray⟩⟩

def Matcher.isMatch (m : Matcher) (subject : String) : Bool :=
  m.program.matchesFrom none [] subject.toList

/-- Compiles a pattern to the test whether it matches somewhere in a subject. -/
def compiler (pattern : String) : Except String (String → Bool) :=
  match compile? pattern with
  | some m => .ok m.isMatch
  | none => .error "invalid pattern"

end Courier.Regex
