import Courier.Document
import Courier.Text.Decimal
import Courier.Text.Hex

/-! JSON texts as documents. A text is one value with blanks around it, nested at most 127 deep. -/
namespace Courier.Json

open Document (null bool int real text list table)
open Text (Rest moved length_dropWhile_le)

def isBlank (c : Char) : Bool :=
  c == ' ' || c == '\t' || c == '\n' || c == '\r'

def skipBlank (cs : List Char) : List Char :=
  cs.dropWhile isBlank

theorem length_skipBlank_le (cs : List Char) : (skipBlank cs).length ≤ cs.length :=
  length_dropWhile_le _ _

def hex4? (a b c d : Char) : Option Nat := do
  let a ← Text.hexValue? a
  let b ← Text.hexValue? b
  let c ← Text.hexValue? c
  let d ← Text.hexValue? d
  return ((a * 16 + b) * 16 + c) * 16 + d

def isHighSurrogate (n : Nat) : Bool := 0xD800 ≤ n && n < 0xDC00
def isLowSurrogate (n : Nat) : Bool := 0xDC00 ≤ n && n < 0xE000

def simpleEscape? : Char → Option Char
  | '"' => some '"'
  | '\\' => some '\\'
  | '/' => some '/'
  | 'b' => some '\x08'
  | 'f' => some '\x0c'
  | 'n' => some '\n'
  | 'r' => some '\r'
  | 't' => some '\t'
  | _ => none

/-- The character of an escape, after its backslash. Half of a surrogate pair stands for nothing. -/
def escape? : List Char → Option (Char × List Char)
  | 'u' :: a :: b :: c :: d :: rest => do
    let n ← hex4? a b c d
    if isLowSurrogate n then none
    if !isHighSurrogate n then return (Char.ofNat n, rest)
    match rest with
    | '\\' :: 'u' :: a :: b :: c :: d :: rest =>
      let m ← hex4? a b c d
      if !isLowSurrogate m then none
      return (Char.ofNat (0x10000 + (n - 0xD800) * 0x400 + (m - 0xDC00)), rest)
    | _ => none
  | c :: rest => (simpleEscape? c).map fun e => (e, rest)
  | [] => none

/-- The characters up to the closing quote, escapes replaced, and what follows it. -/
def quoted? (cs : List Char) : Option (List Char × List Char) :=
  match cs with
  | [] => none
  | '"' :: rest => some ([], rest)
  | '\\' :: rest =>
    match moved rest (escape? rest) with
    | none => none
    | some (e, r) => (quoted? r.1).map fun (cs, after) => (e :: cs, after)
  | c :: rest =>
    if c.toNat < 0x20 then none
    else (quoted? rest).map fun (cs, after) => (c :: cs, after)
termination_by cs.length
decreasing_by
  · have := r.2; simp only [List.length_cons]; omega
  · simp

def fraction? : List Char → Option (List Char × List Char)
  | '.' :: rest =>
    let (digits, rest) := Text.run Char.isDigit rest
    if digits.isEmpty then none else some (digits, rest)
  | rest => some ([], rest)

def power? : List Char → Option (Option Int × List Char)
  | [] => some (none, [])
  | c :: rest =>
    if c != 'e' && c != 'E' then some (none, c :: rest)
    else
      let (negative, rest) := match rest with
        | '-' :: rest => (true, rest)
        | '+' :: rest => (false, rest)
        | _ => (false, rest)
      let (digits, rest) := Text.run Char.isDigit rest
      let n : Int := Text.numeral 10 digits
      if digits.isEmpty then none else some (some (if negative then -n else n), rest)

/-- A number: sign, integer part without leading zeros, fraction, exponent. Only one without
fraction and exponent, in 64 bits and not a negative zero, is an integer. -/
def number? (cs : List Char) : Option (Document × List Char) := do
  let (negative, body) := match cs with
    | '-' :: rest => (true, rest)
    | _ => (false, cs)
  let (whole, rest) := Text.run Char.isDigit body
  if whole.isEmpty || (whole.length > 1 && whole.head? == some '0') then none
  let (fraction, rest) ← fraction? rest
  let (power, rest) ← power? rest
  let size : Int := Text.numeral 10 whole
  let n := if negative then -size else size
  let isInteger := fraction.isEmpty && power.isNone && !(negative && n == 0)
  if isInteger && -0x8000000000000000 ≤ n && n < 0x10000000000000000 then return (int n, rest)
  if Text.isFinite (whole ++ fraction) (power.getD 0 - fraction.length) then
    return (real (String.ofList (cs.take (cs.length - rest.length))), rest)
  else none

def literal? (word : List Char) (value : Document) (cs : List Char) : Option (Document × List Char) :=
  if word.isPrefixOf cs then some (value, cs.drop word.length) else none

/-- A value that holds no other value. -/
def scalar? (cs : List Char) : Option (Document × List Char) :=
  match cs with
  | '"' :: rest => (quoted? rest).map fun (cs, after) => (text (String.ofList cs), after)
  | 'n' :: _ => literal? ['n', 'u', 'l', 'l'] null cs
  | 't' :: _ => literal? ['t', 'r', 'u', 'e'] (bool true) cs
  | 'f' :: _ => literal? ['f', 'a', 'l', 's', 'e'] (bool false) cs
  | _ => number? cs

mutual

def value? (depth : Nat) (cs : List Char) : Option (Document × Rest cs) :=
  match cs with
  | '[' :: rest =>
    match depth with
    | 0 => none
    | depth + 1 =>
      match _hs : skipBlank rest with
      | ']' :: after => some (list [], ⟨after, by
          have := length_skipBlank_le rest; simp_all; omega⟩)
      | _ => (items? depth rest).map fun (xs, r) => (list xs, ⟨r.1, Nat.lt_succ_of_lt r.2⟩)
  | '\x7b' :: rest =>
    match depth with
    | 0 => none
    | depth + 1 =>
      match _hs : skipBlank rest with
      | '\x7d' :: after => some (table [], ⟨after, by
          have := length_skipBlank_le rest; simp_all; omega⟩)
      | _ => (fields? depth rest).map fun (xs, r) => (table xs, ⟨r.1, Nat.lt_succ_of_lt r.2⟩)
  | other => moved other (scalar? other)
termination_by (cs.length, 0)

/-- Items after the opening bracket, up to and with the closing one. -/
def items? (depth : Nat) (cs : List Char) : Option (List Document × Rest cs) :=
  match value? depth (skipBlank cs) with
  | none => none
  | some (x, r) =>
    match _hs : skipBlank r.1 with
    | ']' :: after => some ([x], ⟨after, by
        have := length_skipBlank_le r.1; have := r.2; have := length_skipBlank_le cs
        simp_all; omega⟩)
    | ',' :: after =>
      have _shorter : after.length < cs.length := by
        have := length_skipBlank_le r.1; have := r.2; have := length_skipBlank_le cs
        simp_all; omega
      (items? depth after).map fun (xs, r') => (x :: xs, ⟨r'.1, Nat.lt_trans r'.2 _shorter⟩)
    | _ => none
termination_by (cs.length, 1)
decreasing_by
  · have := length_skipBlank_le cs
    rcases Nat.lt_or_eq_of_le this with h | h
    · exact Prod.Lex.left _ _ h
    · rw [h]; exact Prod.Lex.right _ (by omega)
  · exact Prod.Lex.left _ _ _shorter

/-- Named fields after the opening brace, up to and with the closing one. -/
def fields? (depth : Nat) (cs : List Char) : Option (List (String × Document) × Rest cs) :=
  match _hc : skipBlank cs with
  | '"' :: rest =>
    match moved rest (quoted? rest) with
    | none => none
    | some (name, afterName) =>
      match _hn : skipBlank afterName.1 with
      | ':' :: afterColon =>
        have _colon : afterColon.length < cs.length := by
          have := length_skipBlank_le cs; have := afterName.2
          have := length_skipBlank_le afterName.1; simp_all; omega
        match value? depth (skipBlank afterColon) with
        | none => none
        | some (x, r) =>
          match _hs : skipBlank r.1 with
          | '\x7d' :: after => some ([(String.ofList name, x)], ⟨after, by
              have := length_skipBlank_le r.1; have := r.2
              have := length_skipBlank_le afterColon; simp_all; omega⟩)
          | ',' :: after =>
            have _shorter : after.length < cs.length := by
              have := length_skipBlank_le r.1; have := r.2
              have := length_skipBlank_le afterColon; simp_all; omega
            (fields? depth after).map fun (xs, r') =>
              ((String.ofList name, x) :: xs, ⟨r'.1, Nat.lt_trans r'.2 _shorter⟩)
          | _ => none
      | _ => none
  | _ => none
termination_by (cs.length, 1)
decreasing_by
  · have := length_skipBlank_le afterColon
    exact Prod.Lex.left _ _ (by omega)
  · exact Prod.Lex.left _ _ _shorter

end

def parse? (source : String) : Option Document := do
  let (d, rest) ← value? 127 (skipBlank source.toList)
  if (skipBlank rest.1).isEmpty then some d else none

/-- Records may not have items too many, and null stands for nothing. -/
def dialect : Document.Dialect where
  extraItems := false
  isUnit := fun d => match d with
    | null => true
    | _ => false

end Courier.Json
