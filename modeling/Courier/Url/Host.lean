import Courier.Text.Percent
import Courier.Url.Punycode

/-! Hosts: domain names, addresses of both families, and uninterpreted names. -/
namespace Courier.Url

inductive Host where
  | domain (name : String)
  | ipv4 (address : Nat)
  | ipv6 (pieces : List Nat)
  /-- The host of a scheme without rules for hosts, escaped where needed. -/
  | name (text : String)
  deriving DecidableEq, Repr

def isControl (c : Char) : Bool :=
  c.toNat < 0x20 || c.toNat == 0x7F

/-- The numbers that a part of an address may be written as: decimal, octal after a zero,
hexadecimal after 0x. -/
def addressPart? (part : List Char) : Option Nat :=
  let numeral (base : Nat) (digits : List Char) : Option Nat :=
    digits.foldlM (fun n c => do
      let d ← Text.hexValue? c
      if d < base then return base * n + d else none) 0
  match part with
  | [] => none
  | '0' :: 'x' :: digits => numeral 16 digits
  | '0' :: 'X' :: digits => numeral 16 digits
  | '0' :: c :: digits => numeral 8 (c :: digits)
  | digits => numeral 10 digits

def splitOn (sep : Char) : List Char → List (List Char)
  | [] => [[]]
  | c :: rest =>
    if c == sep then [] :: splitOn sep rest
    else match splitOn sep rest with
      | first :: others => (c :: first) :: others
      | [] => [[c]]

def addressParts (name : List Char) : List (List Char) :=
  let parts := splitOn '.' name
  if parts.getLast? == some [] then parts.dropLast else parts

/-- Whether the last part is a number, so that the whole has to be an address. -/
def endsInNumber (name : List Char) : Bool :=
  match (addressParts name).getLast? with
  | none => false
  | some last => (!last.isEmpty && last.all Char.isDigit) || (addressPart? last).isSome

/-- At most four numbers, the last of which fills the bytes that the others leave. -/
def ipv4? (name : List Char) : Option Nat := do
  let parts := addressParts name
  if parts.length > 4 then none
  let numbers ← parts.mapM addressPart?
  let last ← numbers.getLast?
  let front := numbers.dropLast
  if front.any (· > 255) || last ≥ Nat.pow 256 (4 - front.length) then none
  return front.zipIdx.foldl (fun sum (n, i) => sum + n * Nat.pow 256 (3 - i)) last

/-- The four bytes of an address in the last two pieces, as two pieces. -/
def embedded? (cs : List Char) : Option (List Nat) := do
  let parts := splitOn '.' cs
  if parts.length != 4 then none
  let bytes ← parts.mapM fun part => do
    if part.isEmpty || part.length > 3 || !part.all Char.isDigit then none
    if part.length > 1 && part.head? == some '0' then none
    let n := part.foldl (fun n c => 10 * n + (c.toNat - 48)) 0
    if n > 255 then none else some n
  match bytes with
  | [a, b, c, d] => some [256 * a + b, 256 * c + d]
  | _ => none

def piece? (cs : List Char) : Option Nat :=
  if cs.isEmpty || cs.length > 4 then none
  else cs.foldlM (fun n c => do return 16 * n + (← Text.hexValue? c)) 0

/-- Colon-separated pieces, the last of which may be an address of the other family. -/
def pieces? (cs : List Char) : Option (List Nat) :=
  if cs.isEmpty then some []
  else do
    let groups := splitOn ':' cs
    let front ← groups.dropLast.mapM piece?
    let last := groups.getLastD []
    if last.contains '.' then return front ++ (← embedded? last)
    else return front ++ [← piece? last]

/-- The text around the first pair of colons, if there is one. -/
def aroundGap? : List Char → Option (List Char × List Char)
  | ':' :: ':' :: rest => some ([], rest)
  | c :: rest => (aroundGap? rest).map fun (a, b) => (c :: a, b)
  | [] => none

/-- Eight pieces; one pair of colons stands for the zero pieces that are left out. -/
def ipv6? (cs : List Char) : Option (List Nat) :=
  match aroundGap? cs with
  | none => do
    let ps ← pieces? cs
    if ps.length == 8 then some ps else none
  | some (before, after) => do
    if before.contains '.' then none
    let front ← pieces? before
    let back ← pieces? after
    if front.length + back.length > 7 then none
    return front ++ List.replicate (8 - front.length - back.length) 0 ++ back

/-- Characters that no domain may hold. -/
def forbiddenInDomain (c : Char) : Bool :=
  isControl c || [' ', '#', '/', ':', '<', '>', '?', '@', '[', '\\', ']', '^', '|', '%'].contains c

/-- A label that announces an encoded form has to hold one, and one that needs it. -/
def labelOk (label : List Char) : Bool :=
  if ['x', 'n', '-', '-'].isPrefixOf label then
    match Punycode.decode? (label.drop 4) with
    | some codes => codes.any (· ≥ 0x80)
    | none => false
  else true

/-- A domain or an address from the characters of a host, escapes decoded and letters lowered.
Characters beyond ASCII stay as they are. -/
def specialHost? (cs : List Char) : Option Host :=
  match cs with
  | '[' :: rest =>
    if rest.getLast? == some ']' then (ipv6? rest.dropLast).map .ipv6 else none
  | _ => do
    let bytes := Text.percentDecode (String.ofList cs).toUTF8.toList
    let text ← String.fromUTF8? (ByteArray.mk bytes.toArray)
    let name := text.toList.map Char.toLower
    if name.isEmpty || name.any forbiddenInDomain then none
    if !(splitOn '.' name).all labelOk then none
    if endsInNumber name then (ipv4? name).map .ipv4
    else return .domain (String.ofList name)

/-- A host of a scheme without rules for hosts; it may be empty. -/
def plainHost? (cs : List Char) : Option Host :=
  match cs with
  | '[' :: rest =>
    if rest.getLast? == some ']' then (ipv6? rest.dropLast).map .ipv6 else none
  | _ =>
    let forbidden (c : Char) :=
      ['\x00', '\t', '\n', '\r', ' ', '#', '/', ':', '<', '>', '?', '@', '[', '\\', ']', '^',
        '|'].contains c
    if cs.any forbidden then none
    else some (.name (String.ofList (Text.percentEncode isControl cs)))

end Courier.Url
