import Courier.Sandbox.Gather
import Courier.Transfer.Run

/-! Transfers under way in a world in memory. -/
namespace Courier.Sandbox

/-- A transfer under way: its own work, or the images of its article. -/
inductive Line where
  | working (strand : Strand (Task × Stage))
  | gathering (task : Task) (parts : Gather)

namespace Line

abbrev Ended := Task × Result

/-- What is left to do after a transfer's own work. -/
def ofStage (engine : Engine) : Stage → Gather ⊕ Result
  | .ended result => .inr result
  | .images fanout target images =>
    .inl (.new fanout (imageParts engine.policy none target images))

def gather (task : Task) (parts : Gather) (w : World) : World × (Line ⊕ Ended) :=
  match parts.turn w with
  | (w, .inl parts) => (w, .inl (.gathering task parts))
  | (w, .inr result) => (w, .inr (task, result))

def ofOutcome (engine : Engine) : Outcome (Task × Stage) → World × (Line ⊕ Ended)
  | .wait ms watch w next => (w, .inl (.working ⟨w.now + ms, watch, next⟩))
  | .done (task, stage) w =>
    match ofStage engine stage with
    | .inr result => (w, .inr (task, result))
    | .inl parts => gather task parts w

def start (engine : Engine) (task : Task) (w : World) : World × (Line ⊕ Ended) :=
  ofOutcome engine (runJob (answer task.id none) (Transfer.run engine task) w)

def turn (engine : Engine) (w : World) : Line → World × (Line ⊕ Ended)
  | .working strand => ofOutcome engine (strand.next w)
  | .gathering task parts => gather task parts w

def deadline? : Line → Option Nat
  | .working strand => some strand.deadline
  | .gathering _ parts => parts.deadline?

def watch? : Line → Option TaskId
  | .working strand => strand.watch
  | .gathering _ parts => parts.watch?

def isReady (w : World) : Line → Bool
  | .working strand => strand.isReady w
  | .gathering _ parts => parts.running.any (·.isReady w)

/-- Runs a transfer to its end while nothing else runs, in so many turns at most. -/
def settle (engine : Engine) : (turns : Nat) → Line → World → World × Option Ended
  | 0, _, w => (w, none)
  | turns + 1, line, w =>
    match line.turn engine (w.pass (line.deadline?.getD w.now) line.watch?) with
    | (w, .inr ended) => (w, some ended)
    | (w, .inl line) => settle engine turns line w

end Line

/-- Transfers a task while nothing else runs, in so many turns at most. -/
def transfer (engine : Engine) (turns : Nat) (task : Task) (w : World) :
    World × Option Line.Ended :=
  match Line.start engine task w with
  | (w, .inr ended) => (w, some ended)
  | (w, .inl line) => line.settle engine turns w

end Courier.Sandbox
