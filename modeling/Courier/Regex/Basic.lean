import Courier.Unicode.Encoded

/-! Regular expressions as trees, and what one costs when it is compiled. -/
namespace Courier.Regex

open Unicode (CharSet)

/-- Conditions on a position, by the characters on its two sides. -/
inductive Look where
  | start
  | stop
  /-- After a line feed or at the start. -/
  | lineStart
  | lineStop
  /-- The same with carriage returns counted as line ends too. -/
  | crlfStart
  | crlfStop
  | word (isWord : CharSet)
  | notWord (isWord : CharSet)
  | wordStart (isWord : CharSet)
  | wordStop (isWord : CharSet)
  | wordStartHalf (isWord : CharSet)
  | wordStopHalf (isWord : CharSet)

inductive Expr where
  | empty
  /-- A change of flags, which matches nothing by itself and cannot be repeated. -/
  | mark
  | char (set : CharSet)
  /-- A class in brackets, with the depth of its own nesting. -/
  | bracket (depth : Nat) (set : CharSet)
  | look (kind : Look)
  | repeated (body : Expr) (least : Nat) (most : Option Nat)
  | group (captures : Bool) (body : Expr)
  | concat (parts : List Expr)
  | alternate (choices : List Expr)
  deriving Inhabited

namespace Expr

mutual

def depth : Expr → Nat
  | empty | mark | char _ | look _ => 0
  | bracket depth _ => depth
  | repeated body _ _ | group _ body => body.depth + 1
  | concat parts | alternate parts => depthOfAll parts + 1

def depthOfAll : List Expr → Nat
  | [] => 0
  | e :: rest => max e.depth (depthOfAll rest)

end

def depthLimit : Nat := 250

def stateSize : Nat := 32

def edgeSize : Nat := 4

/-- One state for all of a set of ASCII characters; else one for each branch of its paths. -/
def setSize (s : CharSet) : Nat :=
  if s.all fun (_, high) => high < 0x80 then 2 * stateSize + 2 * edgeSize * s.length
  else s.paths.foldl (fun sum paths =>
    sum + stateSize * Unicode.branches [] paths + edgeSize * paths.length) (2 * stateSize)

mutual

/-- About how many bytes the compiled form takes. -/
def size : Expr → Nat
  | empty | mark | look _ => stateSize
  | char [(low, high)] => if low = high then stateSize * (String.singleton (Char.ofNat low)).utf8ByteSize
      else setSize [(low, high)]
  | char s | bracket _ s => setSize s
  | group captures body => body.size + (if captures then 2 * stateSize else 0)
  | repeated body least most =>
    match most with
    | none => max least 1 * body.size + stateSize + 2 * edgeSize
    | some most =>
      least * body.size + (most - least) * (body.size + stateSize + 2 * edgeSize) + stateSize
  | concat parts => sizeOfAll parts
  | alternate choices => sizeOfAll choices + 2 * stateSize

def sizeOfAll : List Expr → Nat
  | [] => 0
  | e :: rest => e.size + sizeOfAll rest

end

def sizeLimit : Nat := 10485760

end Expr

end Courier.Regex
