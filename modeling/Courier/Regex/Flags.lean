import Courier.Regex.Basic
import Courier.Text.Hex
import Courier.Text.Reader
import Courier.Unicode.Age
import Courier.Unicode.Break
import Courier.Unicode.CaseFold

/-! Flags of a regular expression, and the sets that its classes and escapes stand for under them. -/
namespace Courier.Regex

open Unicode (CharSet)

structure Flags where
  ignoreCase : Bool := false
  multiLine : Bool := false
  dotAll : Bool := false
  swapGreed : Bool := false
  unicode : Bool := true
  crlf : Bool := false
  verbose : Bool := false

def Flags.set (f : Flags) (letter : Char) (value : Bool) : Option Flags :=
  match letter with
  | 'i' => some { f with ignoreCase := value }
  | 'm' => some { f with multiLine := value }
  | 's' => some { f with dotAll := value }
  | 'U' => some { f with swapGreed := value }
  | 'u' => some { f with unicode := value }
  | 'R' => some { f with crlf := value }
  | 'x' => some { f with verbose := value }
  | _ => none

def asciiOnly (s : CharSet) : Bool :=
  s.all fun (_, high) => high < 0x80

def asciiLetters : CharSet := [(65, 90), (97, 122)]
def asciiDigits : CharSet := [(48, 57)]
def asciiWord : CharSet := [(48, 57), (65, 90), (95, 95), (97, 122)]
def asciiSpace : CharSet := [(9, 13), (32, 32)]

def asciiClass? (name : String) : Option CharSet :=
  match name with
  | "alnum" => some [(48, 57), (65, 90), (97, 122)]
  | "alpha" => some asciiLetters
  | "ascii" => some [(0, 127)]
  | "blank" => some [(9, 9), (32, 32)]
  | "cntrl" => some [(0, 31), (127, 127)]
  | "digit" => some asciiDigits
  | "graph" => some [(33, 126)]
  | "lower" => some [(97, 122)]
  | "print" => some [(32, 126)]
  | "punct" => some [(33, 47), (58, 64), (91, 96), (123, 126)]
  | "space" => some asciiSpace
  | "upper" => some [(65, 90)]
  | "word" => some asciiWord
  | "xdigit" => some [(48, 57), (65, 70), (97, 102)]
  | _ => none

def Flags.word (f : Flags) : CharSet :=
  if f.unicode then Unicode.wordCharacters else asciiWord

def Flags.perlClass (f : Flags) (letter : Char) : CharSet :=
  if letter == 'd' then (if f.unicode then Unicode.decimalDigits else asciiDigits)
  else if letter == 's' then (if f.unicode then Unicode.blanks else asciiSpace)
  else f.word

/-- Small letters only, without blanks, underscores, hyphens and a leading "is". -/
def normalizeName (name : String) : String :=
  let lowered := name.toList.map Char.toLower
  let body := if ['i', 's'].isPrefixOf lowered then lowered.drop 2 else lowered
  let kept := body.filter fun c => c.toNat < 0x80 && !(c == ' ' || c == '_' || c == '-')
  if ['i', 's'].isPrefixOf lowered && kept == ['c'] then "isc" else String.ofList kept

def namedSet? (name : String) : Option CharSet :=
  let name := normalizeName name
  let property := if name == "cf" || name == "sc" || name == "lc" then none
    else Unicode.property? name
  match property with
  | some set => some set
  | none =>
    match Unicode.category? name with
    | some set => some set
    | none => Unicode.script? name

def valuedSet? (name value : String) : Option CharSet :=
  let name := normalizeName name
  let value := normalizeName value
  if ["gc", "generalcategory"].contains name then Unicode.category? value
  else if ["sc", "script"].contains name then Unicode.script? value
  else if ["scx", "scriptextensions"].contains name then Unicode.scriptExtensions? value
  else if name == "age" then Unicode.age? value
  else if ["gcb", "graphemeclusterbreak"].contains name then
    Unicode.ofClass? Unicode.clusterClasses value
  else if ["wb", "wordbreak"].contains name then Unicode.ofClass? Unicode.wordClasses value
  else if ["sb", "sentencebreak"].contains name then Unicode.ofClass? Unicode.sentenceClasses value
  else none

/-- Puts in what differs in case only, where case does not count. -/
def Flags.fold (f : Flags) (s : CharSet) : CharSet :=
  if !f.ignoreCase then s
  else if f.unicode then s.foldCase
  else
    let lower := (s.inter [(65, 90)]).map fun (a, b) => (a + 32, b + 32)
    let upper := (s.inter [(97, 122)]).map fun (a, b) => (a - 32, b - 32)
    CharSet.normalize (s ++ lower ++ upper)

/-- The complement, if asked for. Without Unicode a set may hold ASCII characters only. -/
def Flags.negate? (f : Flags) (negated : Bool) (s : CharSet) : Option CharSet :=
  if !negated then (if f.unicode || asciiOnly s then some s else none)
  else if f.unicode then some s.complement
  else none

def Flags.literal (f : Flags) (c : Char) : CharSet :=
  if f.ignoreCase && (f.unicode || c.toNat < 0x80) then f.fold (.single c) else .single c

def Flags.dot? (f : Flags) : Option CharSet :=
  if !f.unicode then none
  else if f.dotAll then some [(0, CharSet.greatest)]
  else if f.crlf then some [(0, 9), (11, 12), (14, CharSet.greatest)]
  else some [(0, 9), (11, CharSet.greatest)]

end Courier.Regex
