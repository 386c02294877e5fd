import Courier.Text.Reader

/-! Decimal numbers as they are written, and which of them are too great to be kept. -/
namespace Courier.Text

/-- The least number that becomes infinite when it is rounded to 64-bit floating point. -/
def doubleLimit : Nat := Nat.pow 2 1024 - Nat.pow 2 970

/-- Whether digits times a power of ten stay below that limit. Only a number of about as many digits
as the limit has is worked out. -/
def isFinite (digits : List Char) (power : Int) : Bool :=
  let digits := digits.dropWhile (· == '0')
  let size := digits.length + power
  if digits.isEmpty || size ≤ 308 then true
  else if size > 309 then false
  else
    let n := numeral 10 digits
    if 0 ≤ power then n * Nat.pow 10 power.toNat < doubleLimit
    else n < doubleLimit * Nat.pow 10 (-power).toNat

end Courier.Text
