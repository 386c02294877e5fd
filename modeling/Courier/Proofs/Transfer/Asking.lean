import Courier.Proofs.Transfer.Reading
import Courier.Transfer.Run

/-! What a transfer asks for while it works on its cache file, or on that of an image. Any kind of
questions that has all of these has every question of the work. -/
namespace Courier

namespace Transfer

/-- Whether a kind of questions has all those that a download into a file asks. -/
structure HasDownload (path : String) (P : Request → Prop) : Prop where
  canceled : P .canceled
  fetchChunk : ∀ location offset limit, P (.fetchChunk location offset limit)
  fetchWhole : ∀ location limit, P (.fetchWhole location limit)
  progress : ∀ summary read total, P (.progress summary read total)
  createFile : P (.createFile path)
  appendFile : ∀ more, P (.appendFile path more)
  writeFile : ∀ content, P (.writeFile path content)

/-- Whether a kind of questions has all those of the work on a cache file. -/
structure HasWork (medium : Medium) (path : String) (P : Request → Prop) : Prop
    extends HasDownload path P where
  readHead : ∀ most, P (.readHead path most)
  save : ∀ remotePath, P (.save medium path remotePath)

variable {P : Request → Prop} {path : String} (engine : Engine) (task : Task) (file : RemoteFile)
  {medium : Medium}

theorem copyLoop_asks (has : HasDownload path P) (r : Reader) (u : Unit) (written reads : Nat) :
    (Reader.copyLoop (fileSink path) r u written reads).Asks P := by
  induction reads generalizing r written with
  | zero => exact Job.asks_done ..
  | succ reads ih =>
    unfold Reader.copyLoop
    refine Job.Asks.bind ?_ ?_
    · exact Reader.read_asks has.canceled has.fetchChunk has.progress r Reader.copyRoom
    rintro ⟨e | bytes, r⟩
    · exact Job.asks_done ..
    · dsimp only
      split
      · exact Job.asks_done ..
      · refine ⟨has.appendFile bytes, fun reply => ?_⟩
        cases reply with
        | error e => exact Job.asks_done ..
        | ok => exact ih r _

theorem fetchFile_asks (has : HasDownload path P) : (fetchFile engine task file path).Asks P := by
  unfold fetchFile
  split
  · refine Job.Asks.bind (fetchWithRetry_asks engine.policy has.canceled
      ⟨has.fetchWhole .., fun _ => Job.asks_done ..⟩) ?_
    rintro (e | bytes)
    · exact Job.asks_done ..
    · refine ⟨has.writeFile bytes, fun reply => ?_⟩
      cases reply with
      | error e => exact Job.asks_done ..
      | ok => exact ⟨has.progress .., fun _ => Job.asks_done ..⟩
  · refine ⟨has.createFile, fun reply => ?_⟩
    cases reply with
    | error e => exact Job.asks_done ..
    | ok => exact (copyLoop_asks has ..).bind fun _ => Job.asks_done ..

theorem missingExtension_asks (sniff : Bytes → Option String) (fileName : String)
    (readHead : ∀ most, P (.readHead path most)) :
    (missingExtension sniff fileName path).Asks P := by
  unfold missingExtension
  split
  · exact Job.asks_done ..
  · refine ⟨readHead _, fun reply => ?_⟩
    cases reply <;> exact Job.asks_done ..

theorem persist_asks (look : P .canceled) (readHead : ∀ most, P (.readHead path most))
    (save : ∀ remotePath, P (.save medium path remotePath)) : (persist engine task medium path).Asks P :=
  (missingExtension_asks engine.libraries.sniff task.fileName readHead).bind fun _ =>
    (saveWithRetry_asks engine.policy look (save _)).bind fun _ => Job.asks_done ..

theorem carry_asks (has : HasWork medium path P) : (carry engine task file medium path).Asks P := by
  refine (fetchFile_asks engine task file has.toHasDownload).bind ?_
  rintro (e | _)
  · exact Job.asks_done ..
  · exact persist_asks engine task has.canceled has.readHead has.save

end Transfer

namespace Article.Image

/-- Whether a kind of questions has all those that the save of an image asks. -/
structure HasSave (target : Target) (image : Image) (P : Request → Prop) : Prop where
  canceled : P .canceled
  fetch : P (.image image.link)
  writeFile : ∀ content, P (.writeFile (image.cachePath target) content)
  save : P (.save target.medium (image.cachePath target) (image.remotePath target))
  dispose : P (.dispose (image.cachePath target))

theorem save_asks {P : Request → Prop} {target : Target} {image : Image}
    (has : HasSave target image P) (policy : RetryPolicy) : (image.save policy target).Asks P := by
  have asks (n : Nat) : (image.attempt target).Asks P := by
    simp only [attempt, Job.bind_eq, Job.request, Job.ask_bind, Job.done_bind]
    refine ⟨has.fetch, fun fetched => ?_⟩
    dsimp only
    cases orCanceled fetched with
    | error e => exact Job.asks_done ..
    | ok bytes =>
      refine ⟨has.writeFile bytes, fun written => ?_⟩
      cases written with
      | error e => exact Job.asks_done ..
      | ok => exact ⟨has.save, fun _ => Job.asks_done ..⟩
  exact (withRetry_asks policy has.canceled asks).bind fun _ =>
    ⟨has.dispose, fun _ => Job.asks_done ..⟩

end Article.Image

end Courier
