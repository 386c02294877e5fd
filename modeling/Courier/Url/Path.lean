import Courier.Text.Percent

/-! The path of a link as a list of segments, with dot segments resolved while it is read. -/
namespace Courier.Url

/-- Characters of a path that are written as escapes. -/
def escapedInPath (c : Char) : Bool :=
  c.toNat < 0x20 || c.toNat == 0x7F ||
    [' ', '"', '#', '<', '>', '?', '`', '\x7b', '\x7d'].contains c

def isSingleDot (segment : List Char) : Bool :=
  segment == ['.'] || segment.map Char.toLower == ['%', '2', 'e']

def isDoubleDot (segment : List Char) : Bool :=
  [['.', '.'], ['.', '%', '2', 'e'], ['%', '2', 'e', '.'],
    ['%', '2', 'e', '%', '2', 'e']].contains (segment.map Char.toLower)

def isDriveLetter : List Char → Bool
  | [c, mark] => c.isAlpha && (mark == ':' || mark == '|')
  | _ => false

/-- The segments before the current one, latest first, after a step up; a drive letter stays. -/
def stepUp : List (List Char) → List (List Char)
  | [] => []
  | segment :: earlier => if isDriveLetter segment then segment :: earlier else earlier

/-- Reads raw segments into resolved ones. `before` holds the finished segments, latest first. -/
def resolve (isFile : Bool) (before : List (List Char)) : List (List Char) → List (List Char)
  | [] => before.reverse
  | raw :: rest =>
    let segment := Text.percentEncode escapedInPath raw
    if isDoubleDot segment then
      if rest.isEmpty then ([] :: stepUp before).reverse else resolve isFile (stepUp before) rest
    else if isSingleDot segment then
      if rest.isEmpty then ([] :: before).reverse else resolve isFile before rest
    else if isFile && before.isEmpty && isDriveLetter segment then
      resolve isFile ((segment.take 1 ++ [':']) :: before) rest
    else resolve isFile (segment :: before) rest

/-- Cuts a path at slashes, and for special schemes at backslashes too. -/
def cut (special : Bool) : List Char → List (List Char)
  | [] => [[]]
  | c :: rest =>
    if c == '/' || (special && c == '\\') then [] :: cut special rest
    else match cut special rest with
      | first :: others => (c :: first) :: others
      | [] => [[c]]

theorem slash_not_mem_of_mem_cut {special : Bool} {cs segment : List Char}
    (h : segment ∈ cut special cs) : '/' ∉ segment := by
  induction cs generalizing segment with
  | nil => simp_all [cut]
  | cons c rest ih =>
    rw [cut] at h
    split at h
    · rcases List.mem_cons.1 h with rfl | h
      · simp
      · exact ih h
    · rename_i hc
      simp only [Bool.or_eq_true, beq_iff_eq, not_or] at hc
      split at h
      · rename_i first others he
        rcases List.mem_cons.1 h with rfl | h
        · have : '/' ∉ first := ih (by simp [he])
          simp only [List.mem_cons, not_or]
          exact ⟨fun hs => hc.1 hs.symm, this⟩
        · exact ih (by simp [he, h])
      · simp only [List.mem_singleton] at h
        subst h
        simp only [List.mem_singleton]
        exact fun hs => hc.1 hs.symm

/-- Empty segments at the front of a file path are dropped. -/
def withoutLeadingEmpty (segments : List (List Char)) : List (List Char) :=
  match segments.dropWhile List.isEmpty with
  | [] => [[]]
  | kept => kept

end Courier.Url
