import Courier.Regex.Flags

/-! Escapes of regular expressions: characters by code, classes, and conditions on a position. -/
namespace Courier.Regex

open Unicode (CharSet)

inductive Atom where
  | literal (c : Char)
  | set (s : CharSet)
  | look (kind : Look)

def isBlank (c : Char) : Bool :=
  Unicode.blanks.mem c

/-- Drops blanks and comments, in verbose patterns. -/
def skipVerbose (inComment : Bool) : List Char → List Char
  | [] => []
  | c :: rest =>
    if inComment then skipVerbose (c != '\n') rest
    else if isBlank c then skipVerbose false rest
    else if c == '#' then skipVerbose true rest
    else c :: rest

def Flags.skip (f : Flags) (cs : List Char) : List Char :=
  if f.verbose then skipVerbose false cs else cs

def isMeta (c : Char) : Bool :=
  ['\\', '.', '+', '*', '?', '(', ')', '|', '[', ']', '\x7b', '\x7d', '^', '$', '#', '&', '-',
    '~'].contains c

/-- Characters other than letters and digits may be escaped without need. -/
def isEscapable (c : Char) : Bool :=
  isMeta c || (c.toNat < 0x80 && !c.isAlphanum && c != '<' && c != '>')

def charOf? (digits : List Char) : Option Char :=
  let n := Text.numeral 16 digits
  if n.isValidChar then some (Char.ofNat n) else none

def isHex (c : Char) : Bool :=
  (Text.hexValue? c).isSome

def fixedHex? (f : Flags) (digits : List Char) : (count : Nat) → List Char →
    Option (Char × List Char)
  | 0, cs => (charOf? digits).map fun c => (c, f.skip cs)
  | count + 1, cs =>
    match (if digits.isEmpty then cs else f.skip cs) with
    | [] => none
    | c :: rest => if isHex c then fixedHex? f (digits ++ [c]) count rest else none

def bracedHex? (f : Flags) (cs : List Char) : Option (Char × List Char) :=
  let body := cs.takeWhile (· != '\x7d')
  let digits := if f.verbose then body.filter fun c => !isBlank c else body
  match cs.dropWhile (· != '\x7d') with
  | [] => none
  | _ :: rest =>
    if digits.isEmpty || !digits.all isHex then none
    else (charOf? digits).map fun c => (c, f.skip rest)

/-- A character by its code, after the letter that tells how many digits it has. -/
def hexEscape? (f : Flags) (count : Nat) (cs : List Char) : Option (Atom × List Char) := do
  let cs := f.skip cs
  match cs with
  | '\x7b' :: body => (bracedHex? f body).map fun (c, rest) => (.literal c, rest)
  | _ =>
    let (c, rest) ← fixedHex? f [] count cs
    if !f.unicode && count == 2 && c.toNat ≥ 0x80 then none
    return (.literal c, rest)

/-- The text before a separator and after it. -/
def cutAt (mark : List Char) : List Char → Option (List Char × List Char)
  | [] => none
  | c :: rest =>
    if mark.isPrefixOf (c :: rest) then some ([], (c :: rest).drop mark.length)
    else (cutAt mark rest).map fun (a, b) => (c :: a, b)

/-- The set of a property in braces: one name, or a name and a value. -/
def propertySet? (body : List Char) : Option (Bool × CharSet) :=
  let valued (ab : List Char × List Char) := valuedSet? (String.ofList ab.1) (String.ofList ab.2)
  match cutAt ['!', '='] body with
  | some ab => (valued ab).map fun s => (true, s)
  | none =>
    match cutAt [':'] body with
    | some ab => (valued ab).map fun s => (false, s)
    | none =>
      match cutAt ['='] body with
      | some ab => (valued ab).map fun s => (false, s)
      | none => (namedSet? (String.ofList body)).map fun s => (false, s)

/-- A property class, after its letter. -/
def propertyEscape? (f : Flags) (negated : Bool) (cs : List Char) : Option (Atom × List Char) := do
  if !f.unicode then none
  let finish (negated : Bool) (s : CharSet) (rest : List Char) : Option (Atom × List Char) := do
    return (.set (← f.negate? negated (f.fold s)), rest)
  match f.skip cs with
  | [] => none
  | '\x7b' :: body =>
    let name := body.takeWhile (· != '\x7d')
    let name := if f.verbose then name.filter fun c => !isBlank c else name
    match body.dropWhile (· != '\x7d') with
    | [] => none
    | _ :: rest =>
      let (flipped, s) ← propertySet? name
      finish (negated != flipped) s rest
  | '\\' :: _ => none
  | c :: rest =>
    let s ← namedSet? (String.singleton c)
    finish negated s (f.skip rest)

def isBoundaryLetter (c : Char) : Bool :=
  c.isAlpha || c == '-'

def boundary? (f : Flags) (cs : List Char) : Option (Atom × List Char) :=
  match cs with
  | '\x7b' :: body =>
    match f.skip body with
    | [] => none
    | c :: rest =>
      if !isBoundaryLetter c then some (.look (.word f.word), cs)
      else
        let name := (c :: rest).takeWhile isBoundaryLetter
        match (c :: rest).dropWhile isBoundaryLetter with
        | '\x7d' :: after =>
          match String.ofList name with
          | "start" => some (.look (.wordStart f.word), after)
          | "end" => some (.look (.wordStop f.word), after)
          | "start-half" => some (.look (.wordStartHalf f.word), after)
          | "end-half" => some (.look (.wordStopHalf f.word), after)
          | _ => none
        | _ => none
  | _ => some (.look (.word f.word), cs)

def escape? (f : Flags) (cs : List Char) : Option (Atom × List Char) :=
  match cs with
  | [] => none
  | c :: rest =>
    match c with
    | 'x' => hexEscape? f 2 rest
    | 'u' => hexEscape? f 4 rest
    | 'U' => hexEscape? f 8 rest
    | 'p' => propertyEscape? f false rest
    | 'P' => propertyEscape? f true rest
    | 'd' | 's' | 'w' => some (.set (f.perlClass c), rest)
    | 'D' | 'S' | 'W' => (f.negate? true (f.perlClass c.toLower)).map fun s => (.set s, rest)
    | 'a' => some (.literal '\x07', rest)
    | 'f' => some (.literal '\x0c', rest)
    | 't' => some (.literal '\t', rest)
    | 'n' => some (.literal '\n', rest)
    | 'r' => some (.literal '\r', rest)
    | 'v' => some (.literal '\x0b', rest)
    | 'A' => some (.look .start, rest)
    | 'z' => some (.look .stop, rest)
    | 'b' => boundary? f rest
    | 'B' => some (.look (.notWord f.word), rest)
    | '<' => some (.look (.wordStart f.word), rest)
    | '>' => some (.look (.wordStop f.word), rest)
    | _ => if isEscapable c then some (.literal c, rest) else none

end Courier.Regex
