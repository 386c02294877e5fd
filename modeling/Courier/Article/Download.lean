import Courier.Retry
import Courier.Transfer.Naming

/-! Saving the images of an article page, each as its own file below the article's path. -/
namespace Courier.Article

/-- An image of a page; images count from one in document order. -/
structure Image where
  number : Nat
  link : String
  deriving DecidableEq, Repr

/-- Where the images of a page go, where they are kept on the way, and how their links are read. -/
structure Target where
  medium : Medium
  path : String
  cacheDir : String
  task : TaskId
  links : LinkReader

def imagesIn (nodes : List Node) : List Image :=
  (imagesOf nodes).zipIdx.map fun (source, index) => ⟨index + 1, absoluteImage source⟩

/-- Fetches the page of a link and gathers its images. -/
def collect (link : Link) : Job (Except TransferError (List Image)) :=
  match pageSlug link with
  | none => return .error (.article (.invalidLink link.text))
  | some slug => do
    match ← Job.request (.page slug) with
    | none => return .error .canceled
    | some (.error e) => return .error (.article (.pageFailed slug e))
    | some (.ok nodes) =>
      let images := imagesIn nodes
      if images.isEmpty then return .error (.article (.noImages slug))
      return .ok images

namespace Image

def extension (image : Image) (target : Target) : String :=
  imageExtension target.links image.link

def remotePath (image : Image) (target : Target) : String :=
  Path.join target.path (imageName image.number (image.extension target))

def cachePath (image : Image) (target : Target) : String :=
  Path.below target.cacheDir (imageCacheName target.task image.number (image.extension target))

/-- Fetches an image, keeps it, and hands it to the storage. -/
def attempt (image : Image) (target : Target) : Job (Except CallError Unit) := do
  match orCanceled (← Job.request (.image image.link)) with
  | .error e => return .error e
  | .ok bytes =>
    match ← Job.request (.writeFile (image.cachePath target) bytes) with
    | .error e => return .error (.os e)
    | .ok () => Job.request (.save target.medium (image.cachePath target) (image.remotePath target))

/-- What the attempts of an image come to. -/
def outcome (image : Image) : Except (RetryError CallError) Unit → Except TransferError Unit
  | .ok () => .ok ()
  | .error (.canceled _) => .error .canceled
  | .error (.exhausted attempts last) =>
    if last.isCanceled then .error .canceled
    else .error (.article (.imageFailed image.number image.link attempts last))

/-- Saves one image, trying again as the policy says, and gives up its cache file. -/
def save (policy : RetryPolicy) (target : Target) (image : Image) :
    Job (Except TransferError Unit) := do
  let result ← withRetry policy fun _ => image.attempt target
  Job.request (.dispose (image.cachePath target))
  return image.outcome result

end Image

end Courier.Article
