/-! Readers of text give a value and what they leave. A reader that has to move on leaves less than
it was given, so that reading again and again comes to an end. -/
namespace Courier.Text

abbrev Rest (cs : List Char) := { rest : List Char // rest.length < cs.length }

/-- A reader's answer, refused if it has not moved on. -/
def moved {α : Type} (cs : List Char) : Option (α × List Char) → Option (α × Rest cs)
  | some (a, rest) => if h : rest.length < cs.length then some (a, ⟨rest, h⟩) else none
  | none => none

theorem length_dropWhile_le {α : Type} (p : α → Bool) (xs : List α) :
    (xs.dropWhile p).length ≤ xs.length :=
  (List.dropWhile_sublist p).length_le

def run (p : Char → Bool) (cs : List Char) : List Char × List Char :=
  (cs.takeWhile p, cs.dropWhile p)

def numeral (base : Nat) (digits : List Char) : Nat :=
  digits.foldl (fun n c => base * n + (hexDigitValue c)) 0
where
  hexDigitValue (c : Char) : Nat :=
    if c.isDigit then c.toNat - 48 else if 'a' ≤ c then c.toNat - 87 else c.toNat - 55

end Courier.Text
