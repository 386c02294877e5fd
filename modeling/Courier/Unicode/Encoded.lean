import Courier.Unicode.Table

/-! The bytes of encoded characters, place by place. A set of characters is read byte by byte along
a tree whose branches are labelled with ranges of bytes. -/
namespace Courier.Unicode

/-- The ranges at each place of the encoded forms of codes from `low` to `high`, where `tail` places
follow the first; each place after the first has 64 values. -/
def byteRanges : (tail low high : Nat) → List (List (Nat × Nat))
  | 0, low, high => [[(low, high)]]
  | tail + 1, low, high =>
    let unit := 64 ^ (tail + 1)
    let first := low / unit
    let last := high / unit
    if first == last then
      (byteRanges tail (low % unit) (high % unit)).map ((first, first) :: ·)
    else
      let front := if low % unit == 0 then []
        else (byteRanges tail (low % unit) (unit - 1)).map ((first, first) :: ·)
      let back := if high % unit == unit - 1 then []
        else (byteRanges tail 0 (high % unit)).map ((last, last) :: ·)
      let start := if front.isEmpty then first else first + 1
      let stop := if back.isEmpty then last else last - 1
      let middle := if start ≤ stop then [(start, stop) :: List.replicate (tail + 1) (0, 63)] else []
      front ++ middle ++ back

def commonLength : List (Nat × Nat) → List (Nat × Nat) → Nat
  | a :: as, b :: bs => if a == b then commonLength as bs + 1 else 0
  | _, _ => 0

/-- The branches of the tree that holds some paths in order, given the path before them. -/
def branches (before : List (Nat × Nat)) : List (List (Nat × Nat)) → Nat
  | [] => 0
  | path :: rest => path.length - commonLength before path + branches path rest

/-- The codes whose forms have a length, with the number of places after the first. -/
def encodedLengths : List (Nat × Nat × Nat) :=
  [(0, 0, 0x7F), (1, 0x80, 0x7FF), (2, 0x800, 0xD7FF), (2, 0xE000, 0xFFFF), (3, 0x10000, 0x10FFFF)]

/-- The paths of a set, for each length of the encoded forms. -/
def CharSet.paths (s : CharSet) : List (List (List (Nat × Nat))) :=
  encodedLengths.map fun (tail, least, greatest) =>
    s.flatMap fun (low, high) =>
      let low := max low least
      let high := min high greatest
      if low ≤ high then byteRanges tail low high else []

end Courier.Unicode
