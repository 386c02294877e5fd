import Courier.Article.Download
import Courier.Proofs.FileTree.Standing
import Courier.Proofs.Path.MadeUp

/-! The images of a page in document order, and the files that they are kept and saved in. An image has
its number in its names, and an extension cannot be taken for a part of the number. -/
namespace Courier.Article

open Courier.Path (IsName)

mutual

def Node.walk : Node → List Node
  | .text content => [.text content]
  | .element tag attributes children => .element tag attributes children :: walkAll children

def walkAll : List Node → List Node
  | [] => []
  | node :: rest => node.walk ++ walkAll rest

end

def Node.source? : Node → Option String
  | .element "img" attributes _ => (attributes.find? (·.1 == "src")).map (·.2)
  | _ => none

theorem source?_element (tag : String) (attributes : List (String × String)) (children : List Node) :
    (Node.element tag attributes children).source? =
      if tag == "img" then (attributes.find? (·.1 == "src")).map (·.2) else none := by
  unfold Node.source?
  split
  · next same =>
    obtain ⟨rfl, rfl, -⟩ := Node.element.inj same
    rfl
  · next other =>
    rw [if_neg]
    intro same
    rw [beq_iff_eq] at same
    subst same
    exact other attributes children rfl

mutual

theorem images_eq (node : Node) : node.images = node.walk.filterMap Node.source? := by
  cases node with
  | text content => rfl
  | element tag attributes children =>
    rw [Node.images, Node.walk, List.filterMap_cons, source?_element, imagesOf_eq children]
    split
    · cases attributes.find? (·.1 == "src") <;> rfl
    · rfl

/-- The images of a page are those of all its nodes, however deep, one after another. -/
theorem imagesOf_eq (nodes : List Node) : imagesOf nodes = (walkAll nodes).filterMap Node.source? := by
  cases nodes with
  | nil => rfl
  | cons node rest => rw [imagesOf, walkAll, List.filterMap_append, images_eq node, imagesOf_eq rest]

end

theorem getElem_imagesIn {nodes : List Node} {i : Nat} (h : i < (imagesIn nodes).length) :
    ∃ bound : i < (imagesOf nodes).length,
      (imagesIn nodes)[i] = ⟨i + 1, absoluteImage (imagesOf nodes)[i]⟩ := by
  have bound : i < (imagesOf nodes).length := by simpa [imagesIn] using h
  exact ⟨bound, by simp [imagesIn]⟩

section Extension

variable (links : LinkReader) (link : String)

theorem head_imageExtension : ∀ c ∈ (imageExtension links link).toList.head?, c = '.' := by
  unfold imageExtension
  split
  · simp
  · dsimp only
    split <;> simp

theorem slash_not_mem_imageExtension {links : LinkReader} (whole : links.IsWhole) :
    '/' ∉ (imageExtension links link).toList := by
  unfold imageExtension
  split
  · simp
  · next segments read =>
    have last : '/' ∉ (segments.getLast?.getD "").toList := by
      cases final : segments.getLast? with
      | none => simp
      | some segment => exact whole link segments read segment (List.mem_of_getLast? final)
    dsimp only
    split
    · simp
    · rw [String.toList_ofList, List.mem_cons, not_or, List.mem_reverse]
      exact ⟨by decide, fun mem => last (List.mem_reverse.mp (List.takeWhile_subset _ mem))⟩

theorem takeWhile_imageName (number : Nat) :
    (imageName number (imageExtension links link)).toList.takeWhile Char.isDigit =
      (toString number).toList := by
  refine takeWhile_number number (imageExtension links link).toList
    (by rw [imageName, String.toList_append]) fun c first => ?_
  rw [head_imageExtension links link c first]
  rfl

theorem number_of_imageName {number other : Nat} {otherLink : String}
    (same : imageName number (imageExtension links link) =
      imageName other (imageExtension links otherLink)) : number = other := by
  have digits := takeWhile_imageName links link number
  rw [same] at digits
  exact number_of_digits (digits.symm.trans (takeWhile_imageName links otherLink other))

variable {links} (whole : links.IsWhole)
include whole

theorem isName_imageName (number : Nat) : IsName (imageName number (imageExtension links link)) :=
  isName_of_number number (imageExtension links link).toList
    (by rw [imageName, String.toList_append]) (slash_not_mem_imageExtension link whole)

theorem isName_imageCacheName (id : TaskId) (number : Nat) :
    IsName (imageCacheName id number (imageExtension links link)) := by
  refine isName_of_number id ('_' :: (imageName number (imageExtension links link)).toList)
    (by simp [imageCacheName]) ?_
  rw [List.mem_cons, not_or]
  exact ⟨by decide, (isName_imageName link whole number).whole⟩

end Extension

namespace Image

variable {image other : Image} {target : Target}

theorem isName (image : Image) (whole : target.links.IsWhole) :
    IsName (imageName image.number (image.extension target)) :=
  isName_imageName image.link whole image.number

theorem number_of_remotePath (whole : target.links.IsWhole)
    (same : image.remotePath target = other.remotePath target) : image.number = other.number := by
  rw [remotePath, remotePath, (image.isName whole).join, (other.isName whole).join] at same
  exact number_of_imageName _ _ ((image.isName whole).below_injective _ (other.isName whole) same)

theorem number_of_standing {fs : FileTree} (whole : target.links.IsWhole)
    (same : fs.standing (image.cachePath target) = fs.standing (other.cachePath target)) :
    image.number = other.number := by
  have names := fs.standing_below_injective target.cacheDir
    (isName_imageCacheName image.link whole target.task image.number)
    (isName_imageCacheName other.link whole target.task other.number) same
  rw [imageCacheName, imageCacheName] at names
  exact number_of_imageName _ _ (String.append_right_inj _ |>.mp names)

end Image

theorem numbers_nodup (nodes : List Node) : ((imagesIn nodes).map (·.number)).Nodup := by
  rw [List.Nodup, List.pairwise_iff_getElem]
  intro i j hi hj before
  rw [List.length_map] at hi hj
  obtain ⟨_, first⟩ := getElem_imagesIn hi
  obtain ⟨_, second⟩ := getElem_imagesIn hj
  rw [List.getElem_map, List.getElem_map, first, second]
  simpa using Nat.ne_of_lt before

end Courier.Article
