import Courier.Document
import Courier.Text.Hex

/-! Documents as JSON texts on one line. -/
namespace Courier.Json

/-- A character inside quotes. -/
def writtenChar (c : Char) : List Char :=
  match c with
  | '"' => ['\\', '"']
  | '\\' => ['\\', '\\']
  | '\n' => ['\\', 'n']
  | '\r' => ['\\', 'r']
  | '\t' => ['\\', 't']
  | c =>
    if c.toNat < 0x20 then
      ['\\', 'u', '0', '0', Text.hexDigit (c.toNat / 16), Text.hexDigit (c.toNat % 16)]
    else [c]

def writtenText (s : String) : String :=
  String.ofList ('"' :: s.toList.flatMap writtenChar ++ ['"'])

mutual

def written : Document → String
  | .null => "null"
  | .bool value => if value then "true" else "false"
  | .int value => toString value
  | .real text => text
  | .text value => writtenText value
  | .list items => "[" ++ ",".intercalate (writtenItems items) ++ "]"
  | .table fields => "\x7b" ++ ",".intercalate (writtenFields fields) ++ "\x7d"

def writtenItems : List Document → List String
  | [] => []
  | item :: rest => written item :: writtenItems rest

def writtenFields : List (String × Document) → List String
  | [] => []
  | (name, value) :: rest => (writtenText name ++ ":" ++ written value) :: writtenFields rest

end

end Courier.Json
