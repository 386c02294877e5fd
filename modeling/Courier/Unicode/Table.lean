/-! Sets of characters as ranges of codes, and their packed form. A packed table is a sequence of
numbers in base 32: capital letters and the first small ones are digits with more to come, the other
characters are last digits. -/
namespace Courier.Unicode

/-- Ranges of codes, ends included; in order, apart and not touching after `normalize`. -/
abbrev CharSet := List (Nat × Nat)

def moreDigit? (c : Char) : Option Nat :=
  if 'A' ≤ c ∧ c ≤ 'Z' then some (c.toNat - 65)
  else if 'a' ≤ c ∧ c ≤ 'f' then some (c.toNat - 71)
  else none

def lastDigit (c : Char) : Nat :=
  if 'g' ≤ c ∧ c ≤ 'z' then c.toNat - 103
  else if '0' ≤ c ∧ c ≤ '9' then c.toNat - 28
  else if c == '-' then 30
  else 31

/-- The numbers of a packed table; `value` is that of the digits read so far. -/
def numbers (value : Nat) : List Char → List Nat
  | [] => []
  | c :: rest =>
    match moreDigit? c with
    | some d => numbers (32 * value + d) rest
    | none => (32 * value + lastDigit c) :: numbers 0 rest

def unpack (lines : List String) : List Nat :=
  numbers 0 (String.join lines).toList

/-- Ranges from gaps and lengths in turn, the first gap from zero. -/
def ranges (start : Nat) : List Nat → CharSet
  | gap :: length :: rest =>
    (start + gap, start + gap + length - 1) :: ranges (start + gap + length) rest
  | _ => []

/-- The ranges of each class from runs of a length and a class. -/
def runs (start : Nat) : List Nat → List (Nat × Nat × Nat)
  | length :: kind :: rest => (kind, start, start + length - 1) :: runs (start + length) rest
  | _ => []

def groups (fuel : Nat) : List Nat → List (List Nat)
  | count :: rest =>
    match fuel with
    | 0 => []
    | fuel + 1 => rest.take count :: groups fuel (rest.drop count)
  | [] => []

namespace CharSet

def greatest : Nat := 0x10FFFF

def mem (s : CharSet) (c : Char) : Bool :=
  s.any fun (low, high) => low ≤ c.toNat && c.toNat ≤ high

def single (c : Char) : CharSet := [(c.toNat, c.toNat)]

/-- A range and those after it in order, joined where they meet. -/
def mergeFrom (r : Nat × Nat) : CharSet → CharSet
  | [] => [r]
  | next :: rest =>
    if next.1 ≤ r.2 + 1 then mergeFrom (r.1, max r.2 next.2) rest else r :: mergeFrom next rest

def merge : CharSet → CharSet
  | [] => []
  | r :: rest => mergeFrom r rest

def normalize (s : CharSet) : CharSet :=
  merge (s.mergeSort fun a b => a.1 < b.1 || (a.1 == b.1 && a.2 ≥ b.2))

/-- The codes from `start` on that lie outside of ranges in order. -/
def gaps (start : Nat) : CharSet → CharSet
  | [] => if start ≤ greatest then [(start, greatest)] else []
  | (low, high) :: rest =>
    if start < low then (start, low - 1) :: gaps (high + 1) rest else gaps (max start (high + 1)) rest

def complement (s : CharSet) : CharSet := gaps 0 s.normalize

def union (s t : CharSet) : CharSet := normalize (s ++ t)

def inter (s t : CharSet) : CharSet := complement (union (complement s) (complement t))

def diff (s t : CharSet) : CharSet := inter s (complement t)

def symmDiff (s t : CharSet) : CharSet := union (diff s t) (diff t s)

end CharSet

end Courier.Unicode
