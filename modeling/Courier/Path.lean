/-! Slash-separated paths: joining and cleaning without a file system, and the pieces of a name. -/
namespace Courier.Path

/-- Cuts at every slash; there is always at least one segment. -/
def split : List Char → List (List Char)
  | [] => [[]]
  | c :: rest =>
    if c = '/' then [] :: split rest
    else match split rest with
      | first :: others => (c :: first) :: others
      | [] => [[c]]

def dotDot : List Char := ['.', '.']

/-- Takes one segment onto the kept ones, latest first. Empty and single-dot segments vanish; a
double dot removes a segment, and where there is none stays unless the path is rooted. -/
def push (rooted : Bool) (kept : List (List Char)) (segment : List Char) : List (List Char) :=
  if segment = [] ∨ segment = ['.'] then kept
  else if segment = dotDot then
    match kept with
    | last :: before => if last ≠ dotDot then before else if rooted then kept else segment :: kept
    | [] => if rooted then kept else [segment]
  else segment :: kept

/-- The segments that remain of a list, first to last. -/
def clean (rooted : Bool) (segments : List (List Char)) : List (List Char) :=
  (segments.foldl (push rooted) []).reverse

def render (rooted : Bool) (segments : List (List Char)) : List Char :=
  let body := List.intercalate ['/'] segments
  if rooted then '/' :: body else body

/-- Whether a join has a root: its own, or that of the second part when the first is empty. -/
def joinRooted (dir rest : List Char) : Bool :=
  dir.head? == some '/' || (dir.isEmpty && rest.head? == some '/')

def joinChars (dir rest : List Char) : List Char :=
  let rooted := joinRooted dir rest
  render rooted (clean rooted (split dir ++ split rest))

def join (dir rest : String) : String :=
  String.ofList (joinChars dir.toList rest.toList)

/-- Puts a path below a base as it is: a rooted path replaces the base, and one slash separates. -/
def below (base rest : String) : String :=
  if rest.startsWith "/" then rest
  else if base.isEmpty || base.endsWith "/" then base ++ rest
  else base ++ "/" ++ rest

/-- The segments that name something: without empty ones and single dots after the first. -/
def named (path : String) : List (List Char) :=
  let segments := split path.toList
  (segments.take 1).filter (· ≠ []) ++ (segments.drop 1).filter fun s => s ≠ [] ∧ s ≠ ['.']

/-- The last segment, if it is neither a dot nor a double dot. -/
def fileName? (path : String) : Option (List Char) :=
  match (named path).getLast? with
  | some last => if last = dotDot ∨ last = ['.'] then none else some last
  | none => none

/-- What follows the last dot of a name that does not start with its only dot. -/
def extension? (name : List Char) : Option (List Char) :=
  let back := name.reverse
  match back.dropWhile (· ≠ '.') with
  | [] => none
  | _ :: stem => if stem.isEmpty then none else some (back.takeWhile (· ≠ '.')).reverse

def hasExtension (path : String) : Bool :=
  match fileName? path with
  | some name => (extension? name).isSome
  | none => false

end Courier.Path
