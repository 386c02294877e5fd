import Courier.Article.Download
import Courier.Sandbox.Answer

/-! Activities side by side, a few at a time. The first failure drops all that are left. -/
namespace Courier.Sandbox

/-- An activity that waits: until when, which cancellation ends the wait, and how it goes on. -/
structure Strand (α : Type) where
  deadline : Nat
  watch : Option TaskId
  next : Activity α

def Strand.isReady {α : Type} (strand : Strand α) (w : World) : Bool :=
  strand.deadline ≤ w.now || w.wakes strand.watch

abbrev Result := Except TransferError Unit

structure Gather where
  fanout : Nat
  /-- Parts not begun yet. -/
  waiting : List (Activity Result)
  running : List (Strand Result)

namespace Gather

/-- One part at least is done at a time. -/
def new (fanout : Nat) (parts : List (Activity Result)) : Gather :=
  ⟨max fanout 1, parts, []⟩

/-- Lets every part in `turns` go on once. A part that ends well makes room for one that waits. -/
def go (fanout : Nat) (w : World) : (turns : List (Activity Result)) →
    (waiting : List (Activity Result)) → (running : List (Strand Result)) →
    World × (Gather ⊕ Result)
  | [], waiting, running =>
    if waiting.isEmpty && running.isEmpty then (w, .inr (.ok ()))
    else (w, .inl ⟨fanout, waiting, running⟩)
  | part :: turns, waiting, running =>
    match part w with
    | .wait ms watch w next => go fanout w turns waiting (running ++ [⟨w.now + ms, watch, next⟩])
    | .done (.error e) w => (w, .inr (.error e))
    | .done (.ok ()) w =>
      match waiting with
      | [] => go fanout w turns [] running
      | first :: waiting => go fanout w (turns ++ [first]) waiting running
termination_by turns waiting => turns.length + waiting.length

/-- A turn: the parts that are ready go on, and new ones begin where there is room. -/
def turn (g : Gather) (w : World) : World × (Gather ⊕ Result) :=
  let (ready, running) := g.running.partition (·.isReady w)
  let room := g.fanout - g.running.length
  go g.fanout w (ready.map (·.next) ++ g.waiting.take room) (g.waiting.drop room) running

def deadline? (g : Gather) : Option Nat :=
  (g.running.map (·.deadline)).min?

/-- A task whose cancellation ends the wait of a part. -/
def watch? (g : Gather) : Option TaskId :=
  g.running.findSome? (·.watch)

/-- Runs all parts while nothing else runs, in so many turns at most. -/
def settle : (turns : Nat) → Gather → World → World × Result
  | 0, _, w => (w, .error .canceled)
  | turns + 1, g, w =>
    match g.turn w with
    | (w, .inr result) => (w, result)
    | (w, .inl g) => settle turns g (w.pass (g.deadline?.getD w.now) g.watch?)

end Gather

/-- The parts that save the images of an article for a task. -/
def imageParts (policy : RetryPolicy) (token : Option TaskId) (target : Article.Target)
    (images : List Article.Image) : List (Activity Result) :=
  images.map fun image => runJob (answer target.task token) (image.save policy target)

end Courier.Sandbox
