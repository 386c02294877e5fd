import Courier.Document
import Courier.Link

/-! The content of an article page, and the images in it. -/
namespace Courier.Article

/-- Bare text, or an element with attributes and content. -/
inductive Node where
  | text (content : String)
  | element (tag : String) (attributes : List (String × String)) (children : List Node)
  deriving Repr, Inhabited

mutual

/-- The image sources in a node, in document order. -/
def Node.images : Node → List String
  | .text _ => []
  | .element tag attributes children =>
    let own := if tag == "img" then
      ((attributes.find? (·.1 == "src")).map (·.2)).toList else []
    own ++ imagesOf children

def imagesOf : List Node → List String
  | [] => []
  | node :: rest => node.images ++ imagesOf rest

end

/-- Origin that site-relative sources are resolved against. -/
def origin : String := "https://telegra.ph"

/-- Makes a site-relative image source absolute. -/
def absoluteImage (source : String) : String :=
  if source.startsWith "/file/" then origin ++ source else source

/-- The extension of the last path segment of a link, with its dot. -/
def imageExtension (links : LinkReader) (link : String) : String :=
  match links link with
  | none => ""
  | some segments =>
    let last := (segments.getLast?.getD "").toList
    match last.reverse.dropWhile (· != '.') with
    | [] => ""
    | _ => String.ofList ('.' :: (last.reverse.takeWhile (· != '.')).reverse)

open Document (Dialect readFields readText readTexts required optional)

mutual

/-- Text, or a record of tag, attributes and children; a record may be a list of its fields. -/
def readNode (dialect : Dialect) : Document → Option Node
  | .text content => some (.text content)
  | .table fields => do
    let [tag, attributes, _] ← readFields ["tag", "attrs", "children"] dialect (.table fields)
      | none
    return .element (← required readText dialect tag)
      (← optional [] readTexts dialect attributes) (← childField dialect fields)
  | .list items => do
    let [tag, attributes, _] ← readFields ["tag", "attrs", "children"] dialect (.list items)
      | none
    return .element (← required readText dialect tag)
      (← optional [] readTexts dialect attributes) (← childItem dialect items)
  | _ => none

def childField (dialect : Dialect) : List (String × Document) → Option (List Node)
  | [] => some []
  | (name, d) :: rest => if name == "children" then readNodes dialect d else childField dialect rest

def childItem (dialect : Dialect) : List Document → Option (List Node)
  | _ :: _ :: d :: _ => readNodes dialect d
  | _ => some []

def readNodes (dialect : Dialect) : Document → Option (List Node)
  | .list items => readEach dialect items
  | _ => none

def readEach (dialect : Dialect) : List Document → Option (List Node)
  | [] => some []
  | d :: rest => do return (← readNode dialect d) :: (← readEach dialect rest)

end

end Courier.Article
