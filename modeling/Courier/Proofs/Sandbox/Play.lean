import Courier.Proofs.Job.Trace
import Courier.Sandbox.Activity
import Mathlib.Logic.Relation

/-! What activities come to. One that runs beside others plays a part: the part goes in steps through
roles on a stage that others use as well, and whenever the activity waits it has played up to some role,
and goes on from it on the stage as it is by then. -/
namespace Courier.Sandbox

open Relation (ReflTransGen)

theorem settle_bind {α β : Type} (outcome : Outcome α) (f : α → Activity β) :
    (outcome.bind f).settle = (f outcome.settle.1 outcome.settle.2).settle := by
  induction outcome with
  | done a w => rfl
  | wait ms watch w next ih => exact ih _

variable {α β σ κ : Type} (shows : World → σ → Prop) (step : σ × κ → σ × κ → Prop)

/-- Whether an outcome plays a part from a role on. It waits in roles of `W` only, and what it comes to
goes with the role by then as `E` says. -/
def Outcome.Plays (W : κ → Prop) (E : α → κ → Prop) : Outcome α → σ → κ → Prop
  | .done a w, s, k => ∃ s' k', ReflTransGen step (s, k) (s', k') ∧ shows w s' ∧ E a k'
  | .wait _ _ w next, s, k => ∃ s' k', ReflTransGen step (s, k) (s', k') ∧ shows w s' ∧ W k' ∧
      ∀ later t, shows later t → (next later).Plays W E t k'

/-- Whether an activity plays a part from a role on, whatever the stage. -/
def Activity.Plays (W : κ → Prop) (E : α → κ → Prop) (p : Activity α) (k : κ) : Prop :=
  ∀ w s, shows w s → (p w).Plays shows step W E s k

variable {shows : World → σ → Prop} {step : σ × κ → σ × κ → Prop} {W W' : κ → Prop}
  {E : α → κ → Prop} {s s' : σ} {k k' : κ}

namespace Outcome

theorem Plays.after {outcome : Outcome α} (plays : outcome.Plays shows step W E s' k')
    (steps : ReflTransGen step (s, k) (s', k')) : outcome.Plays shows step W E s k := by
  cases outcome with
  | done a w =>
    obtain ⟨t, l, more, rest⟩ := plays
    exact ⟨t, l, steps.trans more, rest⟩
  | wait ms watch w next =>
    obtain ⟨t, l, more, rest⟩ := plays
    exact ⟨t, l, steps.trans more, rest⟩

theorem Plays.bind {E' : β → κ → Prop} {outcome : Outcome α} {f : α → Activity β}
    (plays : outcome.Plays shows step W E s k)
    (goesOn : ∀ a k, E a k → (f a).Plays shows step W E' k) :
    (outcome.bind f).Plays shows step W E' s k := by
  induction outcome generalizing s k with
  | done a w =>
    obtain ⟨s', k', steps, shown, ended⟩ := plays
    exact (goesOn a k' ended w s' shown).after steps
  | wait ms watch w next ih =>
    obtain ⟨s', k', steps, shown, waits, rest⟩ := plays
    exact ⟨s', k', steps, shown, waits, fun later t shown => ih later (rest later t shown)⟩

/-- What an outcome comes to may call for more steps at its end. -/
theorem Plays.imp {E' : α → κ → Prop} {outcome : Outcome α}
    (plays : outcome.Plays shows step W E s k) (waits : ∀ k, W k → W' k)
    (closes : ∀ a k, E a k → ∀ w s, shows w s →
      ∃ s' k', ReflTransGen step (s, k) (s', k') ∧ shows w s' ∧ E' a k') :
    outcome.Plays shows step W' E' s k := by
  induction outcome generalizing s k with
  | done a w =>
    obtain ⟨s', k', steps, shown, ended⟩ := plays
    obtain ⟨t, l, more, rest⟩ := closes a k' ended w s' shown
    exact ⟨t, l, steps.trans more, rest⟩
  | wait ms watch w next ih =>
    obtain ⟨s', k', steps, shown, waited, rest⟩ := plays
    exact ⟨s', k', steps, shown, waits k' waited, fun later t shown => ih later (rest later t shown)⟩

end Outcome

namespace Activity

theorem Plays.bind {E' : β → κ → Prop} {p : Activity α} {f : α → Activity β}
    (plays : p.Plays shows step W E k)
    (goesOn : ∀ a k, E a k → (f a).Plays shows step W E' k) :
    (p >>= f).Plays shows step W E' k :=
  fun w s shown => (plays w s shown).bind goesOn

theorem Plays.imp {E' : α → κ → Prop} {p : Activity α} (plays : p.Plays shows step W E k)
    (waits : ∀ k, W k → W' k)
    (closes : ∀ a k, E a k → ∀ w s, shows w s →
      ∃ s' k', ReflTransGen step (s, k) (s', k') ∧ shows w s' ∧ E' a k') :
    p.Plays shows step W' E' k :=
  fun w s shown => (plays w s shown).imp waits closes

theorem plays_pure {a : α} (ended : E a k) : (pure a : Activity α).Plays shows step W E k :=
  fun _ s shown => ⟨s, k, .refl, shown, ended⟩

theorem plays_look {f : World → α} (ended : ∀ w s, shows w s → E (f w) k) :
    (look f).Plays shows step W E k :=
  fun w s shown => ⟨s, k, .refl, shown, ended w s shown⟩

theorem plays_act {f : World → α × World}
    (acts : ∀ w s, shows w s → ∃ s' k', ReflTransGen step (s, k) (s', k') ∧ shows (f w).2 s' ∧
      E (f w).1 k') : (act f).Plays shows step W E k :=
  acts

theorem plays_yield {E : Unit → κ → Prop} (waits : W k) (ended : E () k) :
    yield.Plays shows step W E k :=
  fun _ s shown => ⟨s, k, .refl, shown, waits, fun _ t shown => ⟨t, k, .refl, shown, ended⟩⟩

theorem plays_sleep {E : Unit → κ → Prop} (ms : Nat) (waits : W k) (ended : E () k) :
    (sleep ms).Plays shows step W E k := by
  intro w s shown
  unfold sleep
  split
  · exact ⟨s, k, .refl, shown, ended⟩
  · exact ⟨s, k, .refl, shown, waits, fun _ t shown => ⟨t, k, .refl, shown, ended⟩⟩

theorem plays_sleepUnless {E : Bool → κ → Prop} (task : TaskId) (ms : Nat) (waits : W k)
    (ended : ∀ canceled, E canceled k) : (sleepUnless task ms).Plays shows step W E k := by
  intro w s shown
  unfold sleepUnless
  split
  · exact ⟨s, k, .refl, shown, ended false⟩
  · split
    · exact ⟨s, k, .refl, shown, ended true⟩
    · exact ⟨s, k, .refl, shown, waits, fun _ t shown => ⟨t, k, .refl, shown, ended _⟩⟩

theorem plays_onFiles {f : FileTree → α × FileTree}
    (acts : ∀ w s, shows w s → ∃ s' k', ReflTransGen step (s, k) (s', k') ∧
      shows { w with files := (f w.files).2 } s' ∧ W k' ∧ E (f w.files).1 k') :
    (onFiles f).Plays shows step W E k := by
  refine .bind (plays_act (E := fun a k => W k ∧ E a k) acts) fun a k ⟨waits, ended⟩ => ?_
  exact .bind (plays_yield (E := fun _ l => l = k) waits rfl) fun _ l same => plays_pure (same ▸ ended)

end Activity

theorem Outcome.Plays.race {E' : Option α → κ → Prop} {outcome : Outcome α} {task : TaskId}
    (plays : outcome.Plays shows step W E s k) (through : ∀ a k, E a k → E' (some a) k)
    (givenUp : ∀ k, W k → E' none k) :
    (outcome.race task).Plays shows step W E' s k := by
  induction outcome generalizing s k with
  | done a w =>
    obtain ⟨s', k', steps, shown, ended⟩ := plays
    exact ⟨s', k', steps, shown, through a k' ended⟩
  | wait ms watch w next ih =>
    obtain ⟨s', k', steps, shown, waits, rest⟩ := plays
    refine ⟨s', k', steps, shown, waits, fun later t shown => ?_⟩
    dsimp only
    split
    · exact ⟨t, k', .refl, shown, givenUp k' waits⟩
    · exact ih later (rest later t shown)

theorem Activity.Plays.race {E' : Option α → κ → Prop} {p : Activity α} {task : TaskId}
    (plays : p.Plays shows step W E k) (through : ∀ a k, E a k → E' (some a) k)
    (givenUp : ∀ k, W k → E' none k) (unbegun : E' none k) :
    (Activity.race task p).Plays shows step W E' k := by
  intro w s shown
  unfold Activity.race
  split
  · exact ⟨s, k, .refl, shown, unbegun⟩
  · exact (plays w s shown).race through givenUp

end Courier.Sandbox
