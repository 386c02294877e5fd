/-! Links as far as their paths go. How a text is read as a link is left to a reader. -/
namespace Courier

/-- Finds the segments of a link's path: none for a text that is no link, and for a link whose path
has no root. -/
abbrev LinkReader := String → Option (List String)

/-- Whether the segments that are found are whole: no slash is left in any of them. -/
def LinkReader.IsWhole (links : LinkReader) : Prop :=
  ∀ link segments, links link = some segments → ∀ s ∈ segments, '/' ∉ s.toList

/-- A link that has been read. -/
structure Link where
  text : String
  /-- What a reader has found for the text. -/
  segments : Option (List String)
  deriving DecidableEq, Repr, Inhabited

/-- The last non-empty path segment of a page link, still escaped. -/
def pageSlug (link : Link) : Option String := do
  let segments ← link.segments
  (segments.filter (· != "")).getLast?

end Courier
