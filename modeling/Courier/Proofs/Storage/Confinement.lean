import Courier.Proofs.Disk.Saving
import Courier.Proofs.FileTree.Standing
import Courier.Proofs.Transfer.Routing

/-! What a storage on disk keeps below its base. It puts a relative path behind the base as it is,
double dots and all, so that a path may climb out; it ends below the base exactly when it comes back
by the names that it has climbed out of. -/
namespace Courier.Path

/-- Whether a path leads to where a base does, or to a place below. -/
def LeadsBelow (base path : String) : Prop :=
  path.startsWith "/" = base.startsWith "/" ∧ (course path).up = (course base).up ∧
    (course base).down <+: (course path).down

instance (base path : String) : Decidable (LeadsBelow base path) :=
  inferInstanceAs (Decidable (_ ∧ _ ∧ _))

/-- Whether a relative path is back in a base at its end: it climbs no further than the base goes
down, and goes down again by the names it has taken back. A rooted base ends at the root. -/
def ComesBack (base relative : String) : Prop :=
  (base.startsWith "/" = true ∨ (course relative).up ≤ (course base).down.length) ∧
    (course base).down.drop ((course base).down.length - (course relative).up) <+:
      (course relative).down

theorem leadsBelow_below_iff (base : String) {rest : String}
    (relative : rest.startsWith "/" = false) :
    LeadsBelow base (below base rest) ↔ ComesBack base rest := by
  have hdown : (course base).down <+: ((course base).append (base.startsWith "/") (course rest)).down ↔
      (course base).down.drop ((course base).down.length - (course rest).up) <+:
        (course rest).down := by
    conv_lhs =>
      lhs
      rw [← List.take_append_drop ((course base).down.length - (course rest).up) (course base).down]
    exact List.prefix_append_right_inj _
  unfold LeadsBelow ComesBack
  rw [below_startsWith base relative, course_below base relative, hdown]
  refine ⟨fun ⟨_, hup, hd⟩ => ⟨?_, hd⟩, fun ⟨hup, hd⟩ => ⟨rfl, ?_, hd⟩⟩
  · cases hb : base.startsWith "/" with
    | true => exact Or.inl rfl
    | false =>
      simp only [Course.append, hb, Bool.false_eq_true, if_false] at hup
      exact Or.inr (by omega)
  · rcases hup with hb | hle
    · simp [Course.append, hb]
    · simp only [Course.append]
      split <;> omega

theorem comesBack_of_up_eq_zero (base : String) {relative : String}
    (level : (course relative).up = 0) : ComesBack base relative := by
  refine ⟨Or.inr (by omega), ?_⟩
  rw [level, Nat.sub_zero, List.drop_length]
  exact List.nil_prefix

end Courier.Path

namespace Courier.FileTree

open Courier.Path

theorem standing_of_leadsBelow {fs : FileTree} {base path : String} (h : LeadsBelow base path) :
    fs.standing base <+: fs.standing path := by
  obtain ⟨rooted, up, down⟩ := h
  unfold standing
  rw [rooted]
  split
  · exact down
  · simp only [Course.append, up]
    exact (List.prefix_append_right_inj _).mpr down

end Courier.FileTree

namespace Courier.Storage

open Courier.Path

/-- A storage puts the relative path of a task, or what the last of its rules makes of that. -/
theorem path_of_destination {patterns : PatternCompiler} {registry : Registry} {task : Task}
    {rules : Except CallError UserRules} {text : Except CallError (Option String)} {route : Route}
    (h : Router.destination patterns registry task rules text = .ok route) :
    ∃ relative, route.path = route.storage.locate relative ∧
      (relative = Router.basePath task ∨ ∃ rule ∈ Router.effective patterns registry task rules text,
        relative = rule.relativePath (Router.basePath task)) := by
  obtain ⟨_, -, rfl⟩ | ⟨rule, effective, _, -, rfl⟩ := Router.destination_cases h
  · exact ⟨_, rfl, Or.inl rfl⟩
  · exact ⟨_, rfl, Or.inr ⟨rule, effective, rfl⟩⟩

/-- However a save to a path below a base ends, no file outside the base is another for it. -/
theorem kept_outside_base {fs fs' : FileTree} {base source target : String} {removed : Bool}
    {result : Except CallError Unit} (ends : Disk.SaveEnds fs source target removed result fs')
    (below : LeadsBelow base target) {p : Place} (outside : ¬ fs.standing base <+: p.map String.toList)
    (content : Bytes) : fs'.Holds p content ↔ fs.Holds p content := by
  have spares := ends.spares
  refine spares.files p (fun named => ?_) content
  obtain ⟨t, ht, rfl, -⟩ := named
  have hs : fs.standing base = fs'.standing base := by
    rw [FileTree.standing, FileTree.standing, spares.home]
  rw [hs, FileTree.target_place ht] at outside
  exact outside (FileTree.standing_of_leadsBelow below)

/-- A path is below the base that a storage on disk puts it in exactly when it comes back by the
names that it has climbed out of, as every path does that never climbs above its start. Then a save
to it leaves all files outside the base alone. A task that is routed there, by a rule or without one,
has its path below the base in that case and in no other. -/
theorem below_base_iff_comesBack (name base : String) :
    (∀ relative, LeadsBelow base ((onDisk name base).locate relative) ↔
      ComesBack base (unrooted relative)) ∧
    (∀ relative, (course (unrooted relative)).up = 0 →
      LeadsBelow base ((onDisk name base).locate relative)) ∧
    (∀ relative, ComesBack base (unrooted relative) → ∀ fs source removed result fs',
      Disk.SaveEnds fs source ((onDisk name base).locate relative) removed result fs' →
      ∀ p, ¬ fs.standing base <+: p.map String.toList →
        ∀ content, fs'.Holds p content ↔ fs.Holds p content) ∧
    ∀ patterns registry task rules text t route,
      (Router.resolve patterns registry task).Trace t (.ok route) →
      (∀ x ∈ t, Router.Told rules text x) → route.storage = onDisk name base →
      ∃ relative, (relative = Router.basePath task ∨
          ∃ rule ∈ Router.effective patterns registry task rules text,
            relative = rule.relativePath (Router.basePath task)) ∧
        (LeadsBelow base route.path ↔ ComesBack base (unrooted relative)) := by
  have located (relative : String) : LeadsBelow base ((onDisk name base).locate relative) ↔
      ComesBack base (unrooted relative) :=
    leadsBelow_below_iff base (unrooted_startsWith relative)
  refine ⟨located, fun relative level => (located relative).mpr (comesBack_of_up_eq_zero base level),
    fun relative back fs source removed result fs' ends p outside content =>
      kept_outside_base ends ((located relative).mpr back) outside content, ?_⟩
  intro patterns registry task rules text t route run told disk
  have destined := (Router.resolve_trace run told).1
  obtain ⟨relative, hpath, source⟩ := path_of_destination destined.symm
  exact ⟨relative, source, by rw [hpath, disk, located]⟩

/-- One double dot is enough. -/
theorem not_below_base_after_double_dot :
    ¬ LeadsBelow "store" ((onDisk "disk" "store").locate "../out.bin") := by
  decide +kernel

end Courier.Storage
