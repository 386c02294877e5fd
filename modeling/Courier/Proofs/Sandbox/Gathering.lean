import Courier.Proofs.Article.Saving
import Courier.Proofs.Sandbox.Showing

/-! The images of an article as a world in memory saves them. Every turn that is taken is a run of the
images side by side, so that what holds of all such runs holds of what the world does. -/
namespace Courier.Sandbox

open Article (Supply Stock Move Step Crowd Target Image)
open Relation (ReflTransGen)

variable {env : Supply} {number : Nat} {policy : RetryPolicy} {fanout : Nat} {target : Target}
  {token : Option TaskId} {w w' : World} {s s' : Stock} {image : Image}
  {before after begun : List (Image × Article.Status)} {left : List Image}

/-- Moves of an image that is under way are steps of the images side by side. -/
theorem steps_of_moves {k k' : Article.Status}
    (moves : ReflTransGen (Moves env policy target image) (s, k) (s', k')) (begun : k ≠ .waiting) :
    k' ≠ .waiting ∧ ReflTransGen (Step env policy fanout target)
      ⟨before ++ (image, k) :: after, s⟩ ⟨before ++ (image, k') :: after, s'⟩ := by
  generalize last : (s', k') = b at moves
  induction moves generalizing s' k' with
  | refl =>
    obtain ⟨rfl, rfl⟩ := Prod.mk.inj last
    exact ⟨begun, .refl⟩
  | @tail m b _ moved ih =>
    subst last
    obtain ⟨going, steps⟩ := ih rfl
    have moved : Move env policy target image m.1 m.2 s' k' := moved
    exact ⟨moved.ne_waiting, steps.tail (.move moved fun waiting => absurd waiting going)⟩

/-- Whether an activity does what is left of the work on an image. -/
def Acts (env : Supply) (number : Nat) (policy : RetryPolicy) (target : Target) (p : Activity Result)
    (q : Image × Article.Status) : Prop :=
  p.Plays (Shows env number) (Moves env policy target q.1) (·.isRunning = true)
    (fun result k => ∃ read, k = .running (.done result) read) q.2

/-- The activity of an image from its beginning. -/
def part (policy : RetryPolicy) (token : Option TaskId) (target : Target) (image : Image) :
    Activity Result × (Image × Article.Status) :=
  (runJob (answer target.task token) (image.save policy target),
    (image, .running (image.save policy target) none))

/-- How the images of an article are divided: `turns` go on now, `resting` ones wait for something, and
those `left` have not been begun. -/
structure Rides (env : Supply) (number : Nat) (policy : RetryPolicy) (fanout : Nat) (target : Target)
    (turns : List (Activity Result × (Image × Article.Status)))
    (resting : List (Strand Result × (Image × Article.Status)))
    (begun : List (Image × Article.Status)) (w : World) (s : Stock) : Prop where
  shows : Shows env number w s
  started : ∀ p ∈ begun, p.2 ≠ .waiting
  running : (begun.filter (·.2.isRunning)).Perm (turns.map (·.2) ++ resting.map (·.2))
  acts : ∀ t ∈ turns, Acts env number policy target t.1 t.2
  rests : ∀ r ∈ resting, Acts env number policy target r.1.next r.2
  room : turns.length + resting.length ≤ max fanout 1

variable {turns : List (Activity Result × (Image × Article.Status))}
  {resting : List (Strand Result × (Image × Article.Status))}

section Running

variable {q : Image × Article.Status} {others : List (Image × Article.Status)}

theorem running_without (runs : q.2.isRunning = true)
    (running : ((before ++ q :: after).filter (·.2.isRunning)).Perm (q :: others)) :
    ((before ++ after).filter (·.2.isRunning)).Perm others := by
  have here : (q :: after).filter (·.2.isRunning) = q :: after.filter (·.2.isRunning) :=
    List.filter_cons_of_pos runs
  rw [List.filter_append, here] at running
  rw [List.filter_append]
  exact (List.perm_middle.symm.trans running).cons_inv

theorem running_with (runs : q.2.isRunning = true)
    (running : ((before ++ after).filter (·.2.isRunning)).Perm others) :
    ((before ++ q :: after).filter (·.2.isRunning)).Perm (others ++ [q]) := by
  have here : (q :: after).filter (·.2.isRunning) = q :: after.filter (·.2.isRunning) :=
    List.filter_cons_of_pos runs
  rw [List.filter_append] at running
  rw [List.filter_append, here]
  exact List.perm_middle.trans ((running.cons q).trans (List.perm_append_singleton q others).symm)

theorem running_beside (ended : q.2.isRunning = false) :
    (before ++ q :: after).filter (·.2.isRunning) = (before ++ after).filter (·.2.isRunning) := by
  have here : (q :: after).filter (·.2.isRunning) = after.filter (·.2.isRunning) :=
    List.filter_cons_of_neg (by simp [ended])
  rw [List.filter_append, here, List.filter_append]

end Running

theorem Rides.begin (rides : Rides env number policy fanout target turns resting begun w s)
    (medium : target.medium = .backend number) (token : Option TaskId)
    (room : turns.length + resting.length < max fanout 1) (image : Image) (left : List Image) :
    ReflTransGen (Step env policy fanout target)
        ⟨begun ++ (image :: left).map (·, .waiting), s⟩
        ⟨(begun ++ [(part policy token target image).2]) ++ left.map (·, .waiting), s⟩ ∧
      Rides env number policy fanout target (turns ++ [part policy token target image]) resting
        (begun ++ [(part policy token target image).2]) w s := by
  have count :
      (begun ++ left.map (·, Article.Status.waiting)).countP (·.2.isRunning) < max fanout 1 := by
    have waits : (left.map (·, Article.Status.waiting)).countP (·.2.isRunning) = 0 := by
      rw [List.countP_eq_zero]
      intro p mem
      obtain ⟨image, -, rfl⟩ := List.mem_map.mp mem
      simp [Article.Status.isRunning]
    have length := rides.running.length_eq
    rw [List.length_append, List.length_map, List.length_map, ← List.countP_eq_length_filter] at length
    rw [List.countP_append, waits, length]
    exact room
  refine ⟨?_, rides.shows, ?_, ?_, ?_, rides.rests, ?_⟩
  · rw [List.append_assoc]
    exact .single (.move .begin fun _ => ⟨rides.started, count⟩)
  · intro p mem
    rcases List.mem_append.mp mem with old | new
    · exact rides.started p old
    · rw [List.mem_singleton.mp new]
      simp [part]
  · have grown := rides.running.append_right [(part policy token target image).2]
    rw [List.filter_append, List.map_append]
    refine grown.trans ?_
    rw [List.append_assoc, List.append_assoc]
    exact List.perm_append_comm.append_left _
  · intro t mem
    rcases List.mem_append.mp mem with old | new
    · exact rides.acts t old
    · rw [List.mem_singleton.mp new]
      exact runJob_plays (image.save_asks (hasSave_asked image medium) policy) none
  · rw [List.length_append, List.length_singleton]
    omega

section Turns

variable {p : Activity Result} {k k' : Article.Status}
  (rides : Rides env number policy fanout target ((p, (image, k)) :: turns) resting
    (before ++ (image, k) :: after) w s) (runs : k.isRunning = true)

include rides

theorem Rides.started_again (begun : k' ≠ .waiting) :
    ∀ p ∈ before ++ (image, k') :: after, p.2 ≠ .waiting := by
  intro p mem
  rcases List.mem_append.mp mem with first | rest
  · exact rides.started p (List.mem_append_left _ first)
  · rcases List.mem_cons.mp rest with rfl | last
    · exact begun
    · exact rides.started p (List.mem_append_right _ (List.mem_cons_of_mem _ last))

include runs

/-- The image whose turn it was rests. -/
theorem Rides.rest (strand : Strand Result) (shows : Shows env number w' s')
    (runs' : k'.isRunning = true) (acts : Acts env number policy target strand.next (image, k')) :
    Rides env number policy fanout target turns (resting ++ [(strand, (image, k'))])
      (before ++ (image, k') :: after) w' s' where
  shows := shows
  started := rides.started_again (by rintro rfl; contradiction)
  running := by
    have others := running_with (q := (image, k')) runs' (running_without runs rides.running)
    simpa using others
  acts t mem := rides.acts t (List.mem_cons_of_mem _ mem)
  rests r mem := by
    rcases List.mem_append.mp mem with old | new
    · exact rides.rests r old
    · rw [List.mem_singleton.mp new]
      exact acts
  room := by
    have room := rides.room
    rw [List.length_cons] at room
    rw [List.length_append, List.length_singleton]
    omega

theorem Rides.leave (shows : Shows env number w' s') :
    Rides env number policy fanout target turns resting (before ++ (image, .saved) :: after) w' s' ∧
      turns.length + resting.length < max fanout 1 := by
  have room := rides.room
  rw [List.length_cons] at room
  refine ⟨⟨shows, rides.started_again (by simp), ?_,
    fun t mem => rides.acts t (List.mem_cons_of_mem _ mem),
    rides.rests, by omega⟩, by omega⟩
  rw [running_beside rfl]
  exact running_without runs rides.running

end Turns

/-- What a gathering that goes on has come to: the images that rest and those that are left. -/
def Underway (env : Supply) (number : Nat) (policy : RetryPolicy) (fanout : Nat) (target : Target)
    (token : Option TaskId) (g : Gather) (w : World) (c : Crowd) : Prop :=
  ∃ resting begun left,
    g = ⟨max fanout 1, imageParts policy token target left, resting.map (·.1)⟩ ∧
    c.parts = begun ++ left.map (·, .waiting) ∧
    Rides env number policy fanout target [] resting begun w c.stock

/-- Whether what a turn has come to can come of the images side by side. -/
def Comes (env : Supply) (number : Nat) (policy : RetryPolicy) (fanout : Nat) (target : Target)
    (token : Option TaskId) (c : Crowd) : World × (Gather ⊕ Result) → Prop
  | (w, .inl g) => ∃ c', ReflTransGen (Step env policy fanout target) c c' ∧
      Underway env number policy fanout target token g w c'
  | (w, .inr result) => ∃ c' s', ReflTransGen (Step env policy fanout target) c c' ∧
      Article.Ends c' result s' ∧ Shows env number w s'

theorem Comes.of_steps {c c' : Crowd} {came : World × (Gather ⊕ Result)}
    (comes : Comes env number policy fanout target token c' came)
    (steps : ReflTransGen (Step env policy fanout target) c c') :
    Comes env number policy fanout target token c came := by
  obtain ⟨w, g | result⟩ := came
  · obtain ⟨d, more, rest⟩ := comes
    exact ⟨d, steps.trans more, rest⟩
  · obtain ⟨d, t, more, rest⟩ := comes
    exact ⟨d, t, steps.trans more, rest⟩

theorem go_nil (rides : Rides env number policy fanout target [] resting begun w s) (left : List Image) :
    Comes env number policy fanout target token ⟨begun ++ left.map (·, .waiting), s⟩
      (Gather.go (max fanout 1) w [] (imageParts policy token target left) (resting.map (·.1))) := by
  rw [Gather.go]
  split
  · next none =>
    rw [Bool.and_eq_true, List.isEmpty_iff, List.isEmpty_iff, imageParts, List.map_eq_nil_iff,
      List.map_eq_nil_iff] at none
    obtain ⟨rfl, rfl⟩ := none
    refine ⟨_, s, .refl, .all fun p mem => ?_, rides.shows⟩
    have mem : p ∈ begun := by simpa using mem
    have started := rides.started p mem
    have idle : begun.filter (·.2.isRunning) = [] := List.perm_nil.mp rides.running
    have still := List.filter_eq_nil_iff.mp idle p mem
    rcases p with ⟨image, _ | _ | _⟩
    · exact absurd rfl started
    · exact absurd rfl still
    · rfl
  · exact ⟨_, .refl, resting, begun, left, rfl, rfl, rides⟩

/-- What comes of an image whose turn it is: it rests, it is saved and makes room, or it ends them all. -/
theorem Rides.first_goes_on {p : Activity Result} {q : Image × Article.Status}
    (rides : Rides env number policy fanout target ((p, q) :: turns) resting begun w s)
    (left : List Image) :
    match p w with
    | .wait ms watch w' next => ∃ q' begun' s',
        ReflTransGen (Step env policy fanout target) ⟨begun ++ left.map (·, .waiting), s⟩
          ⟨begun' ++ left.map (·, .waiting), s'⟩ ∧
        Rides env number policy fanout target turns
          (resting ++ [(⟨w'.now + ms, watch, next⟩, q')]) begun' w' s'
    | .done (.ok ()) w' => ∃ begun' s',
        ReflTransGen (Step env policy fanout target) ⟨begun ++ left.map (·, .waiting), s⟩
          ⟨begun' ++ left.map (·, .waiting), s'⟩ ∧
        Rides env number policy fanout target turns resting begun' w' s' ∧
        turns.length + resting.length < max fanout 1
    | .done (.error e) w' => ∃ c' s',
        ReflTransGen (Step env policy fanout target) ⟨begun ++ left.map (·, .waiting), s⟩ c' ∧
        Article.Ends c' (.error e) s' ∧ Shows env number w' s' := by
  obtain ⟨image, k⟩ := q
  have acts : (p w).Plays _ _ _ _ s k := rides.acts _ List.mem_cons_self w s rides.shows
  have here : (image, k) ∈ begun.filter (·.2.isRunning) := rides.running.mem_iff.mpr (by simp)
  obtain ⟨mem, runs⟩ := List.mem_filter.mp here
  obtain ⟨before, after, rfl⟩ := List.append_of_mem mem
  have going : k ≠ .waiting := by
    rintro rfl
    contradiction
  have steps {s' : Stock} {k' : Article.Status}
      (moves : ReflTransGen (Moves env policy target image) (s, k) (s', k')) :
      ReflTransGen (Step env policy fanout target)
        ⟨(before ++ (image, k) :: after) ++ left.map (·, .waiting), s⟩
        ⟨(before ++ (image, k') :: after) ++ left.map (·, .waiting), s'⟩ := by
    rw [List.append_assoc, List.append_assoc]
    exact (steps_of_moves moves going).2
  cases outcome : p w with
  | wait ms watch w' next =>
    rw [outcome] at acts
    obtain ⟨s', k', moves, shows, runs', rest⟩ := acts
    exact ⟨_, _, s', steps moves, rides.rest runs ⟨w'.now + ms, watch, next⟩ shows runs' rest⟩
  | done result w' =>
    rw [outcome] at acts
    obtain ⟨s', _, moves, shows, read, rfl⟩ := acts
    cases result with
    | error e =>
      have failing : (image, Article.Status.running (.done (.error e)) read) ∈
          (before ++ (image, .running (.done (.error e)) read) :: after) ++ left.map (·, .waiting) := by
        simp
      exact ⟨_, s', steps moves, .failed failing .refl, shows⟩
    | ok u =>
      have finished : Moves env policy target image (s', .running (.done (.ok u)) read) (s', .saved) :=
        Move.finish
      obtain ⟨rides', room⟩ := rides.leave runs shows
      exact ⟨_, s', steps (moves.tail finished), rides', room⟩

/-- A turn, taken by those whose turn it is one after another. -/
theorem go_comes (medium : target.medium = .backend number) (token : Option TaskId)
    (rides : Rides env number policy fanout target turns resting begun w s) (left : List Image) :
    Comes env number policy fanout target token ⟨begun ++ left.map (·, .waiting), s⟩
      (Gather.go (max fanout 1) w (turns.map (·.1)) (imageParts policy token target left)
        (resting.map (·.1))) := by
  -- Every activity that goes on rests afterwards, or makes room for an image that is left.
  induction size : turns.length + left.length using Nat.strongRecOn
      generalizing turns resting begun left w s with
  | _ n ih =>
  cases turns with
  | nil => exact go_nil rides left
  | cons first turns =>
    obtain ⟨p, q⟩ := first
    rw [List.length_cons] at size
    have goes_on := rides.first_goes_on left
    rw [List.map_cons, Gather.go]
    dsimp only
    cases outcome : p w with
    | wait ms watch w' next =>
      rw [outcome] at goes_on
      obtain ⟨q', begun', s', steps, rides⟩ := goes_on
      have later := ih _ (by omega) rides left rfl
      rw [List.map_append] at later
      exact later.of_steps steps
    | done result w' =>
      rw [outcome] at goes_on
      cases result with
      | error e => exact goes_on
      | ok u =>
        obtain ⟨begun', s', steps, rides, room⟩ := goes_on
        cases left with
        | nil => exact (ih (turns.length + 0) (by omega) rides [] rfl).of_steps steps
        | cons next left =>
          obtain ⟨begins, rides⟩ := rides.begin medium token room next left
          have fewer : (turns ++ [part policy token target next]).length + left.length < n := by
            rw [← size, List.length_append, List.length_singleton, List.length_cons]
            omega
          have later := ih _ fewer rides left rfl
          rw [List.map_append] at later
          exact later.of_steps (steps.trans begins)

theorem Rides.begin_all (medium : target.medium = .backend number) (token : Option TaskId)
    (new rest : List Image) (rides : Rides env number policy fanout target turns resting begun w s)
    (room : turns.length + resting.length + new.length ≤ max fanout 1) :
    ∃ begun', ReflTransGen (Step env policy fanout target)
        ⟨begun ++ (new ++ rest).map (·, .waiting), s⟩ ⟨begun' ++ rest.map (·, .waiting), s⟩ ∧
      Rides env number policy fanout target (turns ++ new.map (part policy token target)) resting begun'
        w s := by
  induction new generalizing turns begun with
  | nil => exact ⟨begun, .refl, by simpa using rides⟩
  | cons first new ih =>
    rw [List.length_cons] at room
    obtain ⟨begins, rides'⟩ := rides.begin medium token (by omega) first (new ++ rest)
    obtain ⟨begun', steps, all⟩ := ih rides' (by simpa using by omega)
    exact ⟨begun', begins.trans steps, by simpa using all⟩

theorem Rides.wake (rides : Rides env number policy fanout target [] resting begun w s)
    (ready : Strand Result → Bool) :
    Rides env number policy fanout target
      ((resting.filter (ready ·.1)).map fun r => (r.1.next, r.2)) (resting.filter (!ready ·.1))
      begun w s where
  shows := rides.shows
  started := rides.started
  running := by
    have divided := (List.filter_append_perm (ready ·.1) resting).map (·.2)
    rw [List.map_append] at divided
    rw [List.map_map]
    exact rides.running.trans divided.symm
  acts t mem := by
    obtain ⟨r, here, rfl⟩ := List.mem_map.mp mem
    exact rides.rests r (List.mem_filter.mp here).1
  rests r mem := rides.rests r (List.mem_filter.mp mem).1
  room := by
    have all := (List.filter_append_perm (ready ·.1) resting).length_eq
    rw [List.length_append] at all
    have room := rides.room
    rw [List.length_nil] at room
    rw [List.length_map]
    omega

/-- A turn of a gathering is a run of the images side by side. -/
theorem turn_comes (medium : target.medium = .backend number) {g : Gather} {c : Crowd}
    (underway : Underway env number policy fanout target token g w c) :
    Comes env number policy fanout target token c (g.turn w) := by
  obtain ⟨parts, s⟩ := c
  obtain ⟨resting, begun, left, rfl, rfl, rides⟩ := underway
  let ready (strand : Strand Result) : Bool := strand.isReady w
  let room := max fanout 1 - resting.length
  have woken := rides.wake ready
  have enough : ((resting.filter (ready ·.1)).map fun r => (r.1.next, r.2)).length +
      (resting.filter (!ready ·.1)).length + (left.take room).length ≤ max fanout 1 := by
    have all := (List.filter_append_perm (ready ·.1) resting).length_eq
    have few := rides.room
    rw [List.length_append] at all
    rw [List.length_nil] at few
    rw [List.length_map, List.length_take]
    omega
  obtain ⟨begun', steps, rides'⟩ := woken.begin_all medium token (left.take room) (left.drop room) enough
  rw [List.take_append_drop] at steps
  have comes := (go_comes medium token rides' (left.drop room)).of_steps steps
  have same : Gather.turn ⟨max fanout 1, imageParts policy token target left, resting.map (·.1)⟩ w =
      Gather.go (max fanout 1) w
        ((((resting.filter (ready ·.1)).map fun r => (r.1.next, r.2)) ++
          (left.take room).map (part policy token target)).map (·.1))
        (imageParts policy token target (left.drop room)) ((resting.filter (!ready ·.1)).map (·.1)) := by
    simp only [Gather.turn, List.partition_eq_filter_filter, List.filter_map, List.length_map]
    simp only [imageParts, List.map_append, List.map_map, List.map_take, List.map_drop]
    rfl
  rw [same]
  exact comes

/-- While time passes the files go that have been given up, and the images stay where they are. -/
theorem pass_comes (shows : Shows env number w s) (parts : List (Image × Article.Status))
    (deadline : Nat) (watch : Option TaskId) :
    ∃ s', Shows env number (w.pass deadline watch) s' ∧
      ReflTransGen (Step env policy fanout target) ⟨parts, s⟩ ⟨parts, s'⟩ := by
  refine World.pass_induction (I := fun m => ∃ s', Shows env number m s' ∧
    ReflTransGen (Step env policy fanout target) ⟨parts, s⟩ ⟨parts, s'⟩) ?_ ?_ ⟨s, shows, .refl⟩
    deadline watch
  · intro m time alarm rest first ⟨t, shows, steps⟩
    have left : Shows env number { m with now := max m.now time, alarms := rest } t :=
      { shows with alarms := fun e mem => shows.alarms e (first ▸ List.mem_cons_of_mem _ mem) }
    have given (path : String) (removes : alarm = .remove path) : path ∈ t.handed :=
      shows.alarms (time, alarm) (first ▸ List.mem_cons_self) path removes
    obtain ⟨t', fired, rfl | ⟨path, mem, rfl⟩⟩ := left.fire given
    · exact ⟨t', fired, steps⟩
    · exact ⟨_, fired, steps.tail (.expire mem)⟩
  · intro m now _ _ ⟨t, shows, steps⟩
    exact ⟨t, { shows with }, steps⟩

theorem Underway.pass {g : Gather} {c : Crowd}
    (underway : Underway env number policy fanout target token g w c) (deadline : Nat)
    (watch : Option TaskId) :
    ∃ c', ReflTransGen (Step env policy fanout target) c c' ∧
      Underway env number policy fanout target token g (w.pass deadline watch) c' := by
  obtain ⟨parts, s⟩ := c
  obtain ⟨resting, begun, left, rfl, same, rides⟩ := underway
  obtain ⟨s', shows, steps⟩ := pass_comes rides.shows parts deadline watch
  exact ⟨⟨parts, s'⟩, steps, resting, begun, left, rfl, same, { rides with shows }⟩

/-- What a gathering comes to when nothing else runs can come of the images side by side, whether it ends
or the turns do. -/
theorem settle_comes (medium : target.medium = .backend number) (turns : Nat) {g : Gather} {c : Crowd}
    (underway : Underway env number policy fanout target token g w c) :
    ∃ c', ReflTransGen (Step env policy fanout target) c c' ∧
      ((∃ s', Article.Ends c' (g.settle turns w).2 s' ∧ Shows env number (g.settle turns w).1 s') ∨
        (g.settle turns w).2 = .error .canceled ∧
          ∃ g', Underway env number policy fanout target token g' (g.settle turns w).1 c') := by
  induction turns generalizing g w c with
  | zero => exact ⟨c, .refl, .inr ⟨rfl, g, underway⟩⟩
  | succ turns ih =>
    have came := turn_comes medium underway
    rw [Gather.settle]
    rcases h : g.turn w with ⟨w', g' | result⟩
    · rw [h] at came
      obtain ⟨c₁, first, underway⟩ := came
      obtain ⟨c₂, passes, underway⟩ := underway.pass (g'.deadline?.getD w'.now) g'.watch?
      obtain ⟨c', rest, came⟩ := ih underway
      exact ⟨c', first.trans (passes.trans rest), came⟩
    · rw [h] at came
      obtain ⟨c', s', steps, ends, shows⟩ := came
      exact ⟨c', steps, .inl ⟨s', ends, shows⟩⟩

theorem underway_new (shows : Shows env number w s) (images : List Image) :
    Underway env number policy fanout target token
      (.new fanout (imageParts policy token target images)) w (.start images s) :=
  ⟨[], [], images, rfl, rfl, shows, nofun, .refl _, nofun, nofun, Nat.zero_le _⟩

/-- A shelf holds all that has been stored if nothing has been stored over something else. -/
theorem mem_kept {stored : List (Medium × String × Bytes)} {file : String × Bytes}
    (apart : ∀ e ∈ stored, ∀ e' ∈ stored, e.2.1 = e'.2.1 → e.2 = e'.2) :
    file ∈ kept stored ↔ file ∈ stored.map (·.2) := by
  induction stored using List.reverseRecOn with
  | nil => simp [kept]
  | append_singleton front last ih =>
    have own (e : Medium × String × Bytes) (mem : e ∈ front) (same : e.2.1 = last.2.1) : e.2 = last.2 :=
      apart e (List.mem_append_left _ mem) last (by simp) same
    have ih := ih fun e he e' he' =>
      apart e (List.mem_append_left _ he) e' (List.mem_append_left _ he')
    have step : kept (front ++ [last]) = last.2 :: (kept front).filter (·.1 != last.2.1) := by
      simp [kept]
    rw [step, List.mem_cons, List.mem_filter, ih, List.map_append, List.mem_append, List.map_singleton,
      List.mem_singleton]
    constructor
    · rintro (rfl | ⟨old, -⟩)
      · exact .inr rfl
      · exact .inl old
    · rintro (old | rfl)
      · obtain ⟨e, mem, rfl⟩ := List.mem_map.mp old
        by_cases same : e.2.1 = last.2.1
        · exact .inl (own e mem same)
        · exact .inr ⟨old, by simpa using same⟩
      · exact .inl rfl

/-- A world that saves the images of a page puts nothing on its shelf but the entries of the page, each
under its own path, and all of them if all goes well. -/
theorem gathering_saves_entries (whole : target.links.IsWhole) (medium : target.medium = .backend number)
    (shows : Shows env number w (.start w.files)) (token : Option TaskId) (nodes : List Article.Node)
    (turns : Nat) :
    let g := Gather.new fanout (imageParts policy token target (Article.imagesIn nodes))
    ∃ shelf, (g.settle turns w).1.shelf? number = some shelf ∧
      (∀ file ∈ shelf.saved, file ∈ (env.entries target nodes).map (·.2)) ∧
      ((g.settle turns w).2 = .ok () →
        ∀ file ∈ (env.entries target nodes).map (·.2), file ∈ shelf.saved) := by
  intro g
  have underway : Underway env number policy fanout target token g w
      (.start (Article.imagesIn nodes) (.start w.files)) := underway_new shows _
  obtain ⟨c, steps, came⟩ := settle_comes medium turns underway
  have orderly : Article.Orderly env fanout target False (Article.imagesIn nodes) c :=
    (Article.Orderly.start fun is => is.elim).run whole (Article.numbers_nodup nodes) steps
  -- Whether the gathering has ended or not, the shelf holds what the images have stored.
  have holds : ∃ s', Shows env number (g.settle turns w).1 s' ∧ s'.stored = c.stock.stored := by
    rcases came with ⟨s', ends, shows⟩ | ⟨-, _, _, _, _, -, -, rides⟩
    · exact ⟨s', shows, (orderly.ends ends).1⟩
    · exact ⟨c.stock, rides.shows, rfl⟩
  obtain ⟨s', shows', stored⟩ := holds
  obtain ⟨shelf, here, -, saved⟩ := shows'.shelf
  have among : ∀ e ∈ c.stock.stored, e ∈ env.entries target nodes := by
    intro e mem
    obtain ⟨image, has, rfl⟩ := orderly.stored e mem
    rw [Article.entries_eq]
    exact List.mem_map_of_mem has
  have apart : ∀ e ∈ c.stock.stored, ∀ e' ∈ c.stock.stored, e.2.1 = e'.2.1 → e.2 = e'.2 := by
    intro e he e' he' same
    have equal := List.inj_on_of_nodup_map (Article.entries_nodup whole nodes) (among e he)
      (among e' he') same
    exact congrArg Prod.snd equal
  refine ⟨shelf, here, fun file mem => ?_, fun ok file mem => ?_⟩
  · rw [saved, stored, mem_kept apart] at mem
    obtain ⟨e, he, rfl⟩ := List.mem_map.mp mem
    exact List.mem_map_of_mem (among e he)
  · rw [saved, stored, mem_kept apart]
    rcases came with ⟨s', ends, -⟩ | ⟨canceled, -⟩
    · have all := (orderly.ends ends).2.mp ok
      rw [Article.entries_eq] at mem
      obtain ⟨e, he, rfl⟩ := List.mem_map.mp mem
      obtain ⟨image, has, rfl⟩ := List.mem_map.mp he
      exact List.mem_map_of_mem (all image has)
    · rw [canceled] at ok
      contradiction

end Courier.Sandbox
