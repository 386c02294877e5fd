import Courier.Transfer.Job

/-! Traces: what a job has asked and been answered on the way to its result. A law of all traces
holds for every world; a world that answers every question has a trace of every job. -/
namespace Courier

abbrev Exchange := (r : Request) × r.Reply

/-- An answer to a question; there always is one. -/
def Request.someReply : (r : Request) → r.Reply
  | canceled => false
  | userRules _ | messageText .. | save .. => .error .canceled
  | makeDirectories _ | createFile _ | appendFile .. | writeFile .. | readHead .. => .error .noEntry
  | fetchChunk .. | fetchWhole .. | page _ | image _ => none
  | dispose _ | progress .. => ()

/-- What a world may answer, and what it is afterwards. -/
abbrev Answering (σ : Type) := σ → (r : Request) → r.Reply → σ → Prop

/-- A world that answers the questions of a trace in order. -/
def Answering.Follows {σ : Type} (world : Answering σ) : σ → List Exchange → σ → Prop
  | w, [], w' => w' = w
  | w, ⟨r, reply⟩ :: t, w' => ∃ m, world w r reply m ∧ world.Follows m t w'

namespace Answering

variable {σ : Type} {world : Answering σ}

theorem follows_append {t₁ t₂ : List Exchange} {w w' : σ} :
    world.Follows w (t₁ ++ t₂) w' ↔ ∃ m, world.Follows w t₁ m ∧ world.Follows m t₂ w' := by
  induction t₁ generalizing w with
  | nil => simp [Follows]
  | cons x t₁ ih =>
    simp only [List.cons_append, Follows, ih]
    constructor
    · rintro ⟨m, hx, n, h₁, h₂⟩
      exact ⟨n, ⟨m, hx, h₁⟩, h₂⟩
    · rintro ⟨n, ⟨m, hx, h₁⟩, h₂⟩
      exact ⟨m, hx, n, h₁, h₂⟩

theorem Follows.forall_mem {P : Exchange → Prop} {t : List Exchange} {w w' : σ}
    (follows : world.Follows w t w') (h : ∀ w r reply m, world w r reply m → P ⟨r, reply⟩) :
    ∀ x ∈ t, P x := by
  induction t generalizing w with
  | nil => simp
  | cons x t ih =>
    obtain ⟨m, hx, ht⟩ := follows
    intro y hy
    rcases List.mem_cons.mp hy with rfl | hy
    · exact h w _ _ m hx
    · exact ih ht y hy

theorem Follows.eq_of_forall_mem {P : Exchange → Prop} {t : List Exchange} {w w' : σ}
    (follows : world.Follows w t w') (quiet : ∀ x ∈ t, P x)
    (h : ∀ w r reply m, P ⟨r, reply⟩ → world w r reply m → m = w) : w' = w := by
  induction t generalizing w with
  | nil => exact follows
  | cons x t ih =>
    obtain ⟨m, hx, ht⟩ := follows
    have hm := h w x.1 x.2 m (quiet x (List.mem_cons_self ..)) hx
    rw [ih ht fun y hy => quiet y (List.mem_cons_of_mem _ hy), hm]

theorem Follows.keeps {P : Exchange → Prop} {I : σ → Prop} {t : List Exchange} {w w' : σ}
    (follows : world.Follows w t w') (kind : ∀ x ∈ t, P x)
    (step : ∀ w r reply m, P ⟨r, reply⟩ → world w r reply m → I w → I m) (holds : I w) : I w' := by
  induction t generalizing w with
  | nil =>
    rw [show w' = w from follows]
    exact holds
  | cons x t ih =>
    obtain ⟨m, hx, ht⟩ := follows
    have next := step w x.1 x.2 m (kind x (List.mem_cons_self ..)) hx holds
    exact ih ht (fun y hy => kind y (List.mem_cons_of_mem _ hy)) next

/-- A world answers as another does where that one has all its answers of the kind at hand. -/
theorem Follows.imp {other : Answering σ} {P : Exchange → Prop} {t : List Exchange} {w w' : σ}
    (follows : world.Follows w t w') (kind : ∀ x ∈ t, P x)
    (step : ∀ w r reply m, P ⟨r, reply⟩ → world w r reply m → other w r reply m) :
    other.Follows w t w' := by
  induction t generalizing w with
  | nil => exact follows
  | cons x t ih =>
    obtain ⟨m, hx, ht⟩ := follows
    exact ⟨m, step w x.1 x.2 m (kind x (List.mem_cons_self ..)) hx,
      ih ht fun y hy => kind y (List.mem_cons_of_mem _ hy)⟩

end Answering

namespace Job

variable {α β : Type}

/-- A job's way to a result. -/
inductive Trace : Job α → List Exchange → α → Prop where
  | done (a : α) : Trace (.done a) [] a
  | ask {r : Request} {next : r.Reply → Job α} {t : List Exchange} {a : α} (reply : r.Reply)
      (rest : Trace (next reply) t a) : Trace (.ask r next) (⟨r, reply⟩ :: t) a

@[simp] theorem trace_done {a b : α} {t : List Exchange} :
    Trace (.done a) t b ↔ t = [] ∧ b = a := by
  constructor
  · rintro ⟨⟩
    exact ⟨rfl, rfl⟩
  · rintro ⟨rfl, rfl⟩
    exact .done b

@[simp] theorem trace_ask {r : Request} {next : r.Reply → Job α} {t : List Exchange} {a : α} :
    Trace (.ask r next) t a ↔ ∃ reply t', t = ⟨r, reply⟩ :: t' ∧ Trace (next reply) t' a := by
  constructor
  · rintro ⟨⟩
    next t reply rest => exact ⟨reply, t, rfl, rest⟩
  · rintro ⟨reply, t', rfl, rest⟩
    exact .ask reply rest

theorem trace_bind {job : Job α} {f : α → Job β} {t : List Exchange} {b : β} :
    Trace (job.bind f) t b ↔ ∃ a t₁ t₂, t = t₁ ++ t₂ ∧ Trace job t₁ a ∧ Trace (f a) t₂ b := by
  induction job generalizing t with
  | done a =>
    simp only [done_bind, trace_done]
    constructor
    · intro h
      exact ⟨a, [], t, rfl, ⟨rfl, rfl⟩, h⟩
    · rintro ⟨_, _, t₂, rfl, ⟨rfl, rfl⟩, h⟩
      exact h
  | ask r next ih =>
    simp only [ask_bind, trace_ask, ih]
    constructor
    · rintro ⟨reply, _, rfl, a, t₁, t₂, rfl, h₁, h₂⟩
      exact ⟨a, ⟨r, reply⟩ :: t₁, t₂, rfl, ⟨reply, t₁, rfl, h₁⟩, h₂⟩
    · rintro ⟨a, _, t₂, rfl, ⟨reply, t₁, rfl, h₁⟩, h₂⟩
      exact ⟨reply, t₁ ++ t₂, rfl, a, t₁, t₂, rfl, h₁, h₂⟩

theorem exists_trace {σ : Type} {world : Answering σ}
    (total : ∀ w r, ∃ reply w', world w r reply w') (job : Job α) (w : σ) :
    ∃ t a w', job.Trace t a ∧ world.Follows w t w' := by
  induction job generalizing w with
  | done a => exact ⟨[], a, w, .done a, rfl⟩
  | ask r next ih =>
    obtain ⟨reply, m, hm⟩ := total w r
    obtain ⟨t, a, w', ht, hw⟩ := ih reply m
    exact ⟨⟨r, reply⟩ :: t, a, w', .ask reply ht, m, hm, hw⟩

theorem exists_trace_forall {P : Exchange → Prop} (total : ∀ r, ∃ reply, P ⟨r, reply⟩)
    (job : Job α) : ∃ t a, job.Trace t a ∧ ∀ x ∈ t, P x := by
  let world : Answering Unit := fun _ r reply _ => P ⟨r, reply⟩
  have hw : ∀ w r, ∃ reply w', world w r reply w' := fun _ r =>
    (total r).imp fun _ h => ⟨(), h⟩
  obtain ⟨t, a, w', ht, follows⟩ := exists_trace hw job ()
  exact ⟨t, a, ht, follows.forall_mem fun _ _ _ _ h => h⟩

theorem Trace.unique {job : Job α} {t : List Exchange} {a a' : α} (run : job.Trace t a)
    (run' : job.Trace t a') : a = a' := by
  induction run with
  | done a => exact (trace_done.mp run').2.symm
  | ask reply rest ih =>
    obtain ⟨reply', t', same, rest'⟩ := trace_ask.mp run'
    obtain ⟨asked, others⟩ := List.cons.inj same
    obtain rfl : reply = reply' := eq_of_heq (Sigma.mk.inj asked).2
    subst others
    exact ih rest'

/-- Whether all questions that a job may come to ask are of some kind. -/
def Asks (P : Request → Prop) : Job α → Prop
  | done _ => True
  | ask r next => P r ∧ ∀ reply, (next reply).Asks P

@[simp] theorem asks_done (P : Request → Prop) (a : α) : (done a).Asks P := trivial

theorem Asks.bind {P : Request → Prop} {job : Job α} {f : α → Job β} (first : job.Asks P)
    (second : ∀ a, (f a).Asks P) : (job.bind f).Asks P := by
  induction job with
  | done a => exact second a
  | ask r next ih => exact ⟨first.1, fun reply => ih reply (first.2 reply)⟩

theorem Asks.forall_mem {P : Request → Prop} {job : Job α} {t : List Exchange} {a : α}
    (asks : job.Asks P) (run : job.Trace t a) : ∀ x ∈ t, P x.1 := by
  induction run with
  | done a => simp
  | ask reply rest ih =>
    intro x hx
    rcases List.mem_cons.mp hx with rfl | hx
    · exact asks.1
    · exact ih (asks.2 reply) x hx

end Job

end Courier
