import Courier.Text.Hex

/-! Percent-encoding of text by its UTF-8 bytes, and decoding of the escapes in a byte string. -/
namespace Courier.Text

def percentByte (b : UInt8) : List Char :=
  '%' :: (byteHex b).map Char.toUpper

/-- Escapes every byte of each character that is not ASCII or that the set names. -/
def percentEncode (escaped : Char → Bool) (cs : List Char) : List Char :=
  cs.flatMap fun c =>
    if c.toNat ≥ 0x80 || escaped c then (String.singleton c).toUTF8.toList.flatMap percentByte else [c]

/-- The value that an escape stands for, where the two characters after the mark are digits. -/
def percentValue? (a b : UInt8) : Option UInt8 := do
  let high ← hexValue? (Char.ofNat a.toNat)
  let low ← hexValue? (Char.ofNat b.toNat)
  return UInt8.ofNat (16 * high + low)

/-- Replaces each well-formed escape by its byte; all else stays as it is. -/
def percentDecode : List UInt8 → List UInt8
  | 0x25 :: a :: b :: rest =>
    match percentValue? a b with
    | some v => v :: percentDecode rest
    | none => 0x25 :: percentDecode (a :: b :: rest)
  | b :: rest => b :: percentDecode rest
  | [] => []

/-- Decodes the escapes of a text; where the bytes are not UTF-8 the text stays undecoded. -/
def percentDecoded (text : String) : String :=
  let bytes := ByteArray.mk (percentDecode text.toUTF8.toList).toArray
  (String.fromUTF8? bytes).getD text

end Courier.Text
