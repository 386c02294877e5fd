import Courier.Text.Hex

/-! Signs that tell the kind of a content: bytes at places, sizes, and combinations of these. -/
namespace Courier.Sniff

abbrev Sign := ByteArray → Bool

/-- Given bytes from an offset on. -/
def bytesAt (offset : Nat) (bytes : List UInt8) : Sign := fun content =>
  (content.extract offset (offset + bytes.length)).toList == bytes

def hex (offset : Nat) (digits : String) : Sign :=
  bytesAt offset ((Text.bytesOfHex digits.toList).getD [])

def text (offset : Nat) (word : String) : Sign :=
  bytesAt offset word.toUTF8.toList

def longer (size : Nat) : Sign := fun content => content.size > size

def both (a b : Sign) : Sign := fun content => a content && b content
def either (signs : List Sign) : Sign := fun content => signs.any fun sign => sign content
def every (signs : List Sign) : Sign := fun content => signs.all fun sign => sign content
def unlike (sign : Sign) : Sign := fun content => !sign content

def byteAt (content : ByteArray) (i : Nat) : Nat :=
  (content.data.getD i 0).toNat

def bigEndian (content : ByteArray) (offset count : Nat) : Nat :=
  (List.range count).foldl (fun n i => 256 * n + byteAt content (offset + i)) 0

def littleEndian (content : ByteArray) (offset count : Nat) : Nat :=
  (List.range count).foldr (fun i n => 256 * n + byteAt content (offset + i)) 0

end Courier.Sniff
