import Courier.Document
import Courier.Text.Decimal
import Courier.Text.Hex

/-! The values of a configuration text that hold no others: strings in four spellings, numbers,
truth values, dates and times. -/
namespace Courier.Toml

open Text (Rest moved)

def isBlank (c : Char) : Bool :=
  c == ' ' || c == '\t'

/-- Control characters other than the tab may not stand anywhere but at a line's end. -/
def isForbidden (c : Char) : Bool :=
  (c.toNat < 0x20 && c != '\t') || c.toNat == 0x7F

/-- A line break: a line feed, also after a carriage return. -/
def lineBreak? : List Char → Option (List Char)
  | '\n' :: rest => some rest
  | '\r' :: '\n' :: rest => some rest
  | _ => none

def coded? (digits : Nat) (cs : List Char) : Option (Char × List Char) := do
  let code := cs.take digits
  if code.length < digits || !code.all fun c => (Text.hexValue? c).isSome then none
  let n := Text.numeral 16 code
  if n.isValidChar then return (Char.ofNat n, cs.drop digits) else none

def escape? : List Char → Option (Char × List Char)
  | 'b' :: rest => some ('\x08', rest)
  | 't' :: rest => some ('\t', rest)
  | 'n' :: rest => some ('\n', rest)
  | 'f' :: rest => some ('\x0c', rest)
  | 'r' :: rest => some ('\r', rest)
  | 'e' :: rest => some ('\x1b', rest)
  | '"' :: rest => some ('"', rest)
  | '\\' :: rest => some ('\\', rest)
  | 'x' :: rest => coded? 2 rest
  | 'u' :: rest => coded? 4 rest
  | 'U' :: rest => coded? 8 rest
  | _ => none

def basic? (cs : List Char) : Option (List Char × List Char) :=
  match cs with
  | [] => none
  | '"' :: rest => some ([], rest)
  | '\\' :: rest =>
    match moved rest (escape? rest) with
    | none => none
    | some (e, r) => (basic? r.1).map fun (cs, after) => (e :: cs, after)
  | c :: rest =>
    if isForbidden c then none else (basic? rest).map fun (cs, after) => (c :: cs, after)
termination_by cs.length
decreasing_by
  · have := r.2; simp only [List.length_cons]; omega
  · simp

def literal? : List Char → Option (List Char × List Char)
  | [] => none
  | '\'' :: rest => some ([], rest)
  | c :: rest =>
    if isForbidden c then none else (literal? rest).map fun (cs, after) => (c :: cs, after)

/-- The end of a string in triple quotes: three quotes, before which up to two more belong to it. -/
def tripleEnd? (quote : Char) (cs : List Char) : Option (List Char × List Char) :=
  let (quotes, rest) := Text.run (· == quote) cs
  if quotes.length < 3 then none
  else
    let extra := min (quotes.length - 3) 2
    some (List.replicate extra quote, List.replicate (quotes.length - 3 - extra) quote ++ rest)

/-- Blanks and line breaks after a backslash at a line's end, of which there has to be one break. -/
def foldedLine? (cs : List Char) : Option (List Char) :=
  match lineBreak? (cs.dropWhile isBlank) with
  | none => none
  | some rest => some (rest.dropWhile fun c => isBlank c || c == '\n' || c == '\r')

def basicLines? (cs : List Char) : Option (List Char × List Char) :=
  match cs with
  | [] => none
  | '"' :: rest =>
    match tripleEnd? '"' cs with
    | some ends => some ends
    | none => (basicLines? rest).map fun (cs, after) => ('"' :: cs, after)
  | '\\' :: rest =>
    match moved rest ((foldedLine? rest).map fun r => ((), r)) with
    | some (_, r) => basicLines? r.1
    | none =>
      match moved rest (escape? rest) with
      | none => none
      | some (e, r) => (basicLines? r.1).map fun (cs, after) => (e :: cs, after)
  | c :: rest =>
    match moved (c :: rest) ((lineBreak? (c :: rest)).map fun r => ((), r)) with
    | some (_, r) => (basicLines? r.1).map fun (cs, after) => ('\n' :: cs, after)
    | none =>
      if isForbidden c then none else (basicLines? rest).map fun (cs, after) => (c :: cs, after)
termination_by cs.length
decreasing_by
  · simp
  · have := r.2; simp only [List.length_cons]; omega
  · have := r.2; simp only [List.length_cons]; omega
  · have := r.2; simp only [List.length_cons] at this ⊢; omega
  · simp

def literalLines? (cs : List Char) : Option (List Char × List Char) :=
  match cs with
  | [] => none
  | '\'' :: rest =>
    match tripleEnd? '\'' cs with
    | some ends => some ends
    | none => (literalLines? rest).map fun (cs, after) => ('\'' :: cs, after)
  | c :: rest =>
    match moved (c :: rest) ((lineBreak? (c :: rest)).map fun r => ((), r)) with
    | some (_, r) => (literalLines? r.1).map fun (cs, after) => ('\n' :: cs, after)
    | none =>
      if isForbidden c then none else (literalLines? rest).map fun (cs, after) => (c :: cs, after)
termination_by cs.length
decreasing_by
  · simp
  · have := r.2; simp only [List.length_cons] at this ⊢; omega
  · simp

/-- A line break right after the opening quotes does not count. -/
def afterOpening (cs : List Char) : List Char :=
  (lineBreak? cs).getD cs

def string? (cs : List Char) : Option (List Char × List Char) :=
  match cs with
  | '"' :: '"' :: '"' :: rest => basicLines? (afterOpening rest)
  | '"' :: rest => basic? rest
  | '\'' :: '\'' :: '\'' :: rest => literalLines? (afterOpening rest)
  | '\'' :: rest => literal? rest
  | _ => none

def digits? (isDigit : Char → Bool) (cs : List Char) : Option (List Char) :=
  let ok := cs.head?.any isDigit && cs.getLast?.any isDigit &&
    (cs.zip (cs.drop 1)).all fun (a, b) => !(a == '_' && b == '_')
  if ok && cs.all fun c => isDigit c || c == '_' then some (cs.filter (· != '_')) else none

def isHex (c : Char) : Bool := (Text.hexValue? c).isSome
def isOctal (c : Char) : Bool := '0' ≤ c && c ≤ '7'
def isBinary (c : Char) : Bool := c == '0' || c == '1'

def signed (cs : List Char) : Bool × List Char :=
  match cs with
  | '-' :: rest => (true, rest)
  | '+' :: rest => (false, rest)
  | _ => (false, cs)

/-- Decimal digits without a zero in front of others. -/
def decimal? (cs : List Char) : Option (List Char) := do
  let digits ← digits? Char.isDigit cs
  if digits.length > 1 && digits.head? == some '0' then none else some digits

def integer? (cs : List Char) : Option Int :=
  match cs with
  | '0' :: 'x' :: rest => (digits? isHex rest).map fun ds => (Text.numeral 16 ds : Int)
  | '0' :: 'o' :: rest => (digits? isOctal rest).map fun ds => (Text.numeral 8 ds : Int)
  | '0' :: 'b' :: rest => (digits? isBinary rest).map fun ds => (Text.numeral 2 ds : Int)
  | _ =>
    let (negative, rest) := signed cs
    (decimal? rest).map fun ds =>
      if negative then -(Text.numeral 10 ds : Int) else (Text.numeral 10 ds : Int)

/-- Integers have up to 128 bits, with a sign or without. -/
def fitsInteger (n : Int) : Bool :=
  -0x80000000000000000000000000000000 ≤ n && n < 0x100000000000000000000000000000000

/-- A number with a fraction, an exponent or both that is not too great. -/
def isFractional (cs : List Char) : Bool := Option.isSome do
  let isMark (c : Char) := c == 'e' || c == 'E'
  let (mantissa, exponent) := Text.run (!isMark ·) cs
  let (whole, fraction) := Text.run (· != '.') mantissa
  if fraction.isEmpty && exponent.isEmpty then none
  let whole ← decimal? whole
  let fraction ← if fraction.isEmpty then some [] else digits? Char.isDigit (fraction.drop 1)
  let (negative, power) := signed (exponent.drop 1)
  let power ← if exponent.isEmpty then some [] else digits? Char.isDigit power
  let power : Int := Text.numeral 10 power
  guard (Text.isFinite (whole ++ fraction) ((if negative then -power else power) - fraction.length))

/-- A number with a fraction, an exponent or both, or one of the two words for none. -/
def isReal (cs : List Char) : Bool :=
  let body := (signed cs).2
  body == ['i', 'n', 'f'] || body == ['n', 'a', 'n'] || isFractional body

def twoDigits? : List Char → Option (Nat × List Char)
  | a :: b :: rest => if a.isDigit && b.isDigit then some (Text.numeral 10 [a, b], rest) else none
  | _ => none

def daysIn (year month : Nat) : Nat :=
  if month == 2 then
    if year % 4 == 0 && (year % 100 != 0 || year % 400 == 0) then 29 else 28
  else if [4, 6, 9, 11].contains month then 30 else 31

def date? : List Char → Option (List Char)
  | a :: b :: c :: d :: '-' :: rest => do
    if [a, b, c, d].any (!·.isDigit) then none
    let (month, rest) ← twoDigits? rest
    match rest with
    | '-' :: rest =>
      let (day, rest) ← twoDigits? rest
      if month < 1 || month > 12 || day < 1 || day > daysIn (Text.numeral 10 [a, b, c, d]) month
      then none else some rest
    | _ => none
  | _ => none

def time? (cs : List Char) : Option (List Char) := do
  let (hour, rest) ← twoDigits? cs
  match rest with
  | ':' :: rest =>
    let (minute, rest) ← twoDigits? rest
    if hour > 23 || minute > 59 then none
    match rest with
    | ':' :: rest =>
      let (second, rest) ← twoDigits? rest
      if second > 60 then none
      match rest with
      | '.' :: rest =>
        let (digits, rest) := Text.run Char.isDigit rest
        if digits.isEmpty then none else some rest
      | _ => some rest
    | _ => some rest
  | _ => none

def offset? (cs : List Char) : Option (List Char) :=
  match cs with
  | [] => some []
  | 'Z' :: rest | 'z' :: rest => some rest
  | c :: rest =>
    if c == '+' || c == '-' then do
      let (hour, rest) ← twoDigits? rest
      match rest with
      | ':' :: rest =>
        let (minute, rest) ← twoDigits? rest
        if hour > 23 || minute > 59 then none else some rest
      | _ => none
    else none

/-- A date, a time, or both with or without an offset. -/
def isMoment (cs : List Char) : Bool :=
  match date? cs with
  | some [] => true
  | some (mark :: rest) =>
    ['T', 't', ' '].contains mark && ((time? rest).bind offset?) == some []
  | none => time? cs == some []

def inWord (c : Char) : Bool :=
  c.isAlphanum || ['+', '-', '.', '_', ':'].contains c

/-- The characters of a scalar without quotes. One space may part a date from a time. -/
def word (cs : List Char) : List Char × List Char :=
  let (first, rest) := Text.run inWord cs
  match rest with
  | ' ' :: c :: rest' =>
    if (date? first) == some [] && c.isDigit then
      let (second, rest'') := Text.run inWord (c :: rest')
      (first ++ ' ' :: second, rest'')
    else (first, rest)
  | _ => (first, rest)

/-- A date counts as a table with one field that no record has. -/
def moment (cs : List Char) : Document :=
  .table [("$moment", .text (String.ofList cs))]

def scalar? (cs : List Char) : Option (Document × List Char) :=
  match string? cs with
  | some (text, rest) => some (.text (String.ofList text), rest)
  | none =>
    let (w, rest) := word cs
    if w == ['t', 'r', 'u', 'e'] then some (.bool true, rest)
    else if w == ['f', 'a', 'l', 's', 'e'] then some (.bool false, rest)
    else match integer? w with
      | some n => if fitsInteger n then some (.int n, rest) else none
      | none =>
        if isReal w then some (.real (String.ofList w), rest)
        else if isMoment w then some (moment w, rest)
        else none

end Courier.Toml
