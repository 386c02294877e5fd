/-! Lower-case hexadecimal. -/
namespace Courier.Text

def hexDigit (n : Nat) : Char :=
  if n < 10 then Char.ofNat (48 + n) else Char.ofNat (87 + n)

def hexValue? (c : Char) : Option Nat :=
  if '0' ≤ c ∧ c ≤ '9' then some (c.toNat - 48)
  else if 'a' ≤ c ∧ c ≤ 'f' then some (c.toNat - 87)
  else if 'A' ≤ c ∧ c ≤ 'F' then some (c.toNat - 55)
  else none

def byteHex (b : UInt8) : List Char :=
  [hexDigit (b.toNat / 16), hexDigit (b.toNat % 16)]

/-- Two digits for each byte, high half first. -/
def hexOfBytes (bs : List UInt8) : String :=
  String.ofList (bs.flatMap byteHex)

/-- The bytes of pairs of digits; a digit left over at the end does not count. -/
def bytesOfHex : List Char → Option (List UInt8)
  | high :: low :: rest => do
    let byte := (← hexValue? high) * 16 + (← hexValue? low)
    return UInt8.ofNat byte :: (← bytesOfHex rest)
  | _ => some []

end Courier.Text
