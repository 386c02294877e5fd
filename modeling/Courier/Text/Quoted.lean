import Courier.Text.Hex
import Courier.Unicode.Property

/-! Text between quotes, for reading by people: what cannot be seen, or would change what stands
before it, is written by its code. -/
namespace Courier.Text

/-- Categories of characters that have no shape of their own: blanks, controls, private ones and
those not assigned. -/
def shapelessKinds : List Nat := [22, 23, 24, 25, 26, 27, 28, 29]

/-- Characters that are written by their code. -/
def hidden : Unicode.CharSet :=
  Unicode.CharSet.union ((Unicode.property? "graphemeextend").getD [])
    ((Unicode.ofCategories shapelessKinds).diff (.single ' '))

def hexDigits (n : Nat) : List Char :=
  if n < 16 then [hexDigit n] else hexDigits (n / 16) ++ [hexDigit (n % 16)]

def quotedChar (c : Char) : List Char :=
  match c with
  | '\x00' => ['\\', '0']
  | '\t' => ['\\', 't']
  | '\r' => ['\\', 'r']
  | '\n' => ['\\', 'n']
  | '"' => ['\\', '"']
  | '\\' => ['\\', '\\']
  | c =>
    if ' ' ≤ c ∧ c ≤ '~' then [c]
    else if hidden.mem c then ['\\', 'u', '\x7b'] ++ hexDigits c.toNat ++ ['\x7d']
    else [c]

def quoted (s : String) : String :=
  String.ofList ('"' :: s.toList.flatMap quotedChar ++ ['"'])

end Courier.Text
