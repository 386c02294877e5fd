import Courier.Link
import Courier.Url.Host
import Courier.Url.Path

/-! Absolute links, read as a browser reads them: surrounding blanks are dropped, tabs and line
breaks inside are skipped, and each scheme has its own idea of authority and path. -/
namespace Courier

inductive Url.Location where
  /-- Segments after the first slash. -/
  | segments (parts : List String)
  /-- A path without a leading slash, kept as it is; also the empty path. -/
  | verbatim (text : String)
  deriving DecidableEq, Repr

structure Url where
  scheme : String
  host : Option Url.Host
  port : Option Nat
  path : Url.Location
  deriving DecidableEq, Repr

namespace Url

inductive SchemeKind where
  | file
  | special
  | other
  deriving DecidableEq

def schemeKind (scheme : String) : SchemeKind :=
  if scheme == "file" then .file
  else if ["http", "https", "ws", "wss", "ftp"].contains scheme then .special
  else .other

def SchemeKind.isSpecial (kind : SchemeKind) : Bool :=
  kind != .other

/-- The text without blanks and control characters at its ends and without tabs and line breaks. -/
def cleaned (text : String) : List Char :=
  let blank (c : Char) : Bool := c.toNat ≤ 0x20
  let trimmed := ((text.toList.dropWhile blank).reverse.dropWhile blank).reverse
  trimmed.filter fun c => !(c == '\t' || c == '\n' || c == '\r')

def inScheme (c : Char) : Bool :=
  c.isAlphanum || c == '+' || c == '-' || c == '.'

/-- A letter, then letters, digits and marks, up to a colon. -/
def scheme? (cs : List Char) : Option (String × List Char) :=
  match cs with
  | [] => none
  | c :: _ =>
    if !c.isAlpha then none
    else match cs.dropWhile inScheme with
      | ':' :: rest => some (String.ofList ((cs.takeWhile inScheme).map Char.toLower), rest)
      | _ => none

def endsAuthority (kind : SchemeKind) (c : Char) : Bool :=
  c == '/' || c == '?' || c == '#' || (kind.isSpecial && c == '\\')

/-- The text before the last at-sign of the authority, if it has one, and all that follows. -/
def credentials (kind : SchemeKind) (cs : List Char) : Option (List Char) × List Char :=
  let authority := cs.takeWhile fun c => !endsAuthority kind c
  let back := authority.reverse
  if back.contains '@' then
    let user := ((back.dropWhile (· != '@')).drop 1).reverse
    (some user, cs.drop (user.length + 1))
  else (none, cs)

/-- The characters up to the end of a host; a colon inside brackets does not end it. -/
def hostSpan (kind : SchemeKind) : (bracketed : Bool) → List Char → List Char × List Char
  | _, [] => ([], [])
  | bracketed, c :: rest =>
    if endsAuthority kind c || (c == ':' && !bracketed) then ([], c :: rest)
    else
      let bracketed := if c == '[' then true else if c == ']' then false else bracketed
      let (host, after) := hostSpan kind bracketed rest
      (c :: host, after)

def defaultPort (scheme : String) : Option Nat :=
  if scheme == "http" || scheme == "ws" then some 80
  else if scheme == "https" || scheme == "wss" then some 443
  else if scheme == "ftp" then some 21
  else none

/-- Digits up to the end of the authority; a port is below 65536 and the scheme's own is left out. -/
def port? (scheme : String) (cs : List Char) : Option (Option Nat × List Char) :=
  let digits := cs.takeWhile Char.isDigit
  let rest := cs.dropWhile Char.isDigit
  let ended := match rest with
    | [] => true
    | c :: _ => c == '/' || c == '\\' || c == '?' || c == '#'
  let number := digits.foldl (fun n c => 10 * n + (c.toNat - 48)) 0
  if !ended || number > 65535 then none
  else if digits.isEmpty || defaultPort scheme == some number then some (none, rest)
  else some (some number, rest)

def beforeQuery (cs : List Char) : List Char :=
  cs.takeWhile fun c => c != '?' && c != '#'

def ofSegments (parts : List (List Char)) : Location :=
  .segments (parts.map String.ofList)

/-- The path after an authority. A special scheme always has one; its first slash may be missing. -/
def pathAfterHost (kind : SchemeKind) (cs : List Char) : Location :=
  let body := beforeQuery cs
  match body with
  | [] => if kind.isSpecial then .segments [""] else .verbatim ""
  | c :: rest =>
    let body := if c == '/' || (kind.isSpecial && c == '\\') then rest else body
    let parts := resolve (kind == .file) [] (cut kind.isSpecial body)
    ofSegments (if kind == .file then withoutLeadingEmpty parts else parts)

/-- The rest of a link after the two slashes that announce an authority. -/
def afterSlashes? (scheme : String) (kind : SchemeKind) (cs : List Char) : Option Url := do
  let (user, rest) := credentials kind cs
  if user == some [] then
    if let some c := rest.head? then
      if endsAuthority kind c then none
  let hasUser := match user with
    | some user => user != [] && user != [':']
    | none => false
  let (hostText, rest) := hostSpan kind false rest
  if hostText.isEmpty && (kind.isSpecial || hasUser) then none
  let host ← if kind.isSpecial then specialHost? hostText else plainHost? hostText
  let (port, rest) ← match rest with
    | ':' :: digits => if hostText.isEmpty then none else port? scheme digits
    | _ => some (none, rest)
  return { scheme, host := some host, port, path := pathAfterHost kind rest }

def isSlash (c : Char) : Bool :=
  c == '/' || c == '\\'

/-- A file path: whatever leads it, it has one root. -/
def filePath (cs : List Char) : Location :=
  let body := match beforeQuery cs with
    | c :: rest => if isSlash c then rest else c :: rest
    | [] => []
  ofSegments (withoutLeadingEmpty (resolve true [] (cut true body)))

/-- A file link. Two slashes announce a host, which a drive letter is not and which may be missing
or the local one. -/
def file? (cs : List Char) : Option Url :=
  match cs with
  | a :: b :: rest =>
    if isSlash a && isSlash b then do
      let hostText := rest.takeWhile fun c => !endsAuthority .file c
      let after := rest.dropWhile fun c => !endsAuthority .file c
      if hostText.isEmpty || isDriveLetter hostText then
        return ⟨"file", none, none, filePath rest⟩
      let host ← specialHost? hostText
      if host == .domain "localhost" then return ⟨"file", none, none, filePath after⟩
      return ⟨"file", some host, none, pathAfterHost .file after⟩
    else if isSlash a then some ⟨"file", none, none, filePath (b :: rest)⟩
    else some ⟨"file", none, none, filePath cs⟩
  | _ => some ⟨"file", none, none, filePath (cs.dropWhile isSlash)⟩

def parse? (text : String) : Option Url := do
  let (scheme, rest) ← scheme? (cleaned text)
  match schemeKind scheme with
  | .file => file? rest
  | .special => afterSlashes? scheme .special (rest.dropWhile isSlash)
  | .other =>
    match rest with
    | '/' :: '/' :: rest => afterSlashes? scheme .other rest
    | '/' :: rest =>
      return ⟨scheme, none, none, ofSegments (resolve false [] (cut false (beforeQuery rest)))⟩
    | _ => return ⟨scheme, none, none, .verbatim (String.ofList (beforeQuery rest))⟩

def segments? (url : Url) : Option (List String) :=
  match url.path with
  | .segments parts => some parts
  | .verbatim _ => none

def links : LinkReader := fun text =>
  (parse? text).bind segments?

def read (text : String) : Link :=
  ⟨text, links text⟩

end Url

end Courier
