import Courier.Toml.Scalar
import Courier.Toml.Tree

/-! Configuration texts as documents: lines of comments, headers and keys with values. -/
namespace Courier.Toml

open Text (Rest moved)

def skipBlank (cs : List Char) : List Char :=
  cs.dropWhile isBlank

theorem length_skipBlank_le (cs : List Char) : (skipBlank cs).length ≤ cs.length :=
  Text.length_dropWhile_le _ _

/-- The end of a comment, after its mark: the line's end, before which all has to be printable. -/
def comment? (cs : List Char) : Option (List Char) :=
  let rest := cs.dropWhile fun c => !isForbidden c
  if rest.isEmpty || (lineBreak? rest).isSome then some rest else none

/-- Blanks, line breaks and comments between the items of a list. -/
def skipLines? (cs : List Char) : Option (List Char) :=
  match cs with
  | [] => some []
  | c :: rest =>
    if isBlank c then skipLines? rest
    else if c == '#' then
      match moved (c :: rest) ((comment? rest).map fun r => ((), r)) with
      | none => none
      | some (_, r) => skipLines? r.1
    else
      match moved (c :: rest) ((lineBreak? (c :: rest)).map fun r => ((), r)) with
      | none => some (c :: rest)
      | some (_, r) => skipLines? r.1
termination_by cs.length
decreasing_by
  · simp
  · exact r.2
  · exact r.2

def isBare (c : Char) : Bool :=
  c.isAlphanum || c == '_' || c == '-'

/-- One part of a key: bare, or a string on one line. -/
def keyPart? (cs : List Char) : Option (String × List Char) :=
  match cs with
  | '"' :: rest => (basic? rest).map fun (name, r) => (String.ofList name, r)
  | '\'' :: rest => (literal? rest).map fun (name, r) => (String.ofList name, r)
  | _ =>
    let (name, rest) := Text.run isBare cs
    if name.isEmpty then none else some (String.ofList name, rest)

def key? (cs : List Char) : Option (List String × List Char) :=
  match moved cs (keyPart? (skipBlank cs)) with
  | none => none
  | some (name, r) =>
    match _h : skipBlank r.1 with
    | '.' :: rest => (key? rest).map fun (names, after) => (name :: names, after)
    | rest => some ([name], rest)
termination_by cs.length
decreasing_by
  have := length_skipBlank_le r.1; have := r.2
  simp_all; omega

/-- The names before the last one, and the last. -/
def splitKey (names : List String) : List String × String :=
  (names.dropLast, names.getLastD "")

mutual

def value? (depth : Nat) (cs : List Char) : Option (Document × Rest cs) :=
  match cs with
  | '[' :: rest =>
    match depth with
    | 0 => none
    | depth + 1 => (items? depth rest).map fun (xs, r) => (.list xs, ⟨r.1, Nat.lt_succ_of_lt r.2⟩)
  | '\x7b' :: rest =>
    match depth with
    | 0 => none
    | depth + 1 =>
      (fields? depth [] rest).map fun (entries, r) =>
        (.table (Tree.entriesToFields entries), ⟨r.1, Nat.lt_succ_of_lt r.2⟩)
  | other => moved other (scalar? other)
termination_by (cs.length, 0)

/-- Items up to and with the closing bracket; the last may have a comma after it. -/
def items? (depth : Nat) (cs : List Char) : Option (List Document × Rest cs) :=
  match skipLines? cs with
  | none => none
  | some start =>
    match moved cs (some ((), start.drop 1)) with
    | none => none
    | some (_, close) =>
      if start.head? == some ']' then some ([], close)
      else if _hs : cs.length < start.length then none
      else
        match value? depth start with
        | none => none
        | some (x, r) =>
          match skipLines? r.1 with
          | none => none
          | some next =>
            match moved cs (some ((), next.drop 1)) with
            | none => none
            | some (_, after) =>
              if next.head? == some ']' then some ([x], after)
              else if next.head? == some ',' then
                (items? depth after.1).map fun (xs, r') =>
                  (x :: xs, ⟨r'.1, Nat.lt_trans r'.2 after.2⟩)
              else none
termination_by (cs.length, 1)
decreasing_by
  · rcases Nat.lt_or_eq_of_le (Nat.not_lt.1 _hs) with h | h
    · exact Prod.Lex.left _ _ h
    · rw [h]; exact Prod.Lex.right _ (by omega)
  · exact Prod.Lex.left _ _ after.2

def fields? (depth : Nat) (entries : Tree.Entries) (cs : List Char) :
    Option (Tree.Entries × Rest cs) :=
  match skipLines? cs with
  | none => none
  | some start =>
    match moved cs (some ((), start.drop 1)) with
    | none => none
    | some (_, close) =>
      if start.head? == some '\x7d' then some (entries, close)
      else
        match moved cs ((key? start).map fun (names, rest) => (names, skipBlank (rest.drop 1))) with
        | none => none
        | some (names, r) =>
          if ((key? start).bind fun (_, rest) => rest.head?) != some '=' then none
          else
            match value? depth r.1 with
            | none => none
            | some (x, r') =>
              let (path, name) := splitKey names
              match Tree.insert? path name x entries, skipLines? r'.1 with
              | some entries, some next =>
                match moved cs (some ((), next.drop 1)) with
                | none => none
                | some (_, after) =>
                  if next.head? == some '\x7d' then some (entries, after)
                  else if next.head? == some ',' then
                    (fields? depth entries after.1).map fun (all, r'') =>
                      (all, ⟨r''.1, Nat.lt_trans r''.2 after.2⟩)
                  else none
              | _, _ => none
termination_by (cs.length, 1)
decreasing_by
  · exact Prod.Lex.left _ _ r.2
  · exact Prod.Lex.left _ _ after.2

end

/-- What one line says. -/
inductive Line where
  | header (path : List String)
  | arrayHeader (path : List String)
  | pair (key : List String) (value : Document)
  | blank

/-- The end of a line: blanks and perhaps a comment, up to the break or the end of the text. -/
def lineEnd? (cs : List Char) : Option (List Char) := do
  let rest := skipBlank cs
  let rest ← match rest with
    | '#' :: comment => comment? comment
    | _ => some rest
  match rest with
  | [] => some []
  | _ => lineBreak? rest

def nesting : Nat := 80

def line? (cs : List Char) : Option (Line × List Char) := do
  match skipBlank cs with
  | '[' :: '[' :: rest =>
    let (path, rest) ← key? rest
    match rest with
    | ']' :: ']' :: rest => return (.arrayHeader path, ← lineEnd? rest)
    | _ => none
  | '[' :: rest =>
    let (path, rest) ← key? rest
    match rest with
    | ']' :: rest => return (.header path, ← lineEnd? rest)
    | _ => none
  | [] => return (.blank, [])
  | start =>
    if let some rest := lineEnd? start then return (.blank, rest)
    let (key, rest) ← key? start
    match rest with
    | '=' :: rest =>
      let (x, r) ← value? nesting (skipBlank rest)
      return (.pair key x, ← lineEnd? r.1)
    | _ => none

def lines? (cs : List Char) : Option (List Line) :=
  if cs.isEmpty then some []
  else match moved cs (line? cs) with
    | none => none
    | some (line, r) => (lines? r.1).map (line :: ·)
termination_by cs.length
decreasing_by exact r.2

/-- The tables built so far, and the path of the header that the next keys belong to. -/
structure State where
  root : Tree.Entries
  path : List String

def State.add? (s : State) : Line → Option State
  | .blank => some s
  | .header path => do
    let (way, name) := splitKey path
    return ⟨← Tree.underHeader? way (Tree.openTable? name) s.root, path⟩
  | .arrayHeader path => do
    let (way, name) := splitKey path
    return ⟨← Tree.underHeader? way (Tree.appendTable? name) s.root, path⟩
  | .pair key value => do
    let (way, name) := splitKey key
    return { s with root := ← Tree.underHeader? s.path (Tree.insert? way name value) s.root }

/-- The document of a whole text; a byte order mark before it does not count. -/
def parse? (source : String) : Option Document := do
  let cs := match source.toList with
    | '\ufeff' :: rest => rest
    | cs => cs
  let lines ← lines? cs
  let s ← lines.foldlM State.add? ⟨[], []⟩
  return .table (Tree.entriesToFields s.root)

/-- Items of a record written as a list may be too many, and an empty table or list stands for
nothing. -/
def dialect : Document.Dialect where
  extraItems := true
  isUnit := fun d => match d with
    | .table [] | .list [] => true
    | _ => false

end Courier.Toml
