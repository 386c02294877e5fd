import Courier.Proofs.FileTree.Writing
import Courier.Proofs.Sandbox.Play
import Courier.Proofs.Sandbox.Removal
import Courier.Proofs.Transfer.Parts
import Courier.Transfer.Words
import Mathlib.Algebra.Order.Floor.Div

/-! Files and memory as sources of remote objects. Both give of an object what it has at the place that is
asked for, however the single reads of a file go and however far beyond the end a request reaches; so that
chunk after chunk they give all of it. -/
namespace Courier

namespace Disk

variable {fs : FileTree} {root : Option String} {location path : String} {content : Bytes}

/-- However little one read gives, as long as it gives something, all that is wanted and there is read. -/
theorem readUpTo_eq {most : Nat → Nat} (gives : ∀ place, 0 < most place) (content : Bytes)
    (place want : Nat) (held : Bytes) :
    readUpTo most content place want held = held ++ content.extract place (place + want) := by
  fun_induction readUpTo most content place want held with
  | case1 place want held block empty =>
    have given := gives place
    have nothing : content.extract place (place + want) = ByteArray.empty := by
      rw [ByteArray.extract_eq_empty_iff]
      rw [ByteArray.size_extract] at empty
      omega
    rw [nothing, ByteArray.append_empty]
  | case2 place want held block filled ih =>
    have size : block.size = min (place + min (most place) want) content.size - place :=
      ByteArray.size_extract
    have here : block = content.extract place (place + block.size) := by
      apply extract_congr <;> omega
    have rest : place + block.size + (want - block.size) = place + want := by omega
    have more : block ++ content.extract (place + block.size) (place + want) =
        content.extract place (place + want) := by
      generalize block.size = n at *
      rw [here, ByteArray.extract_append_extract]
      apply extract_congr <;> omega
    rw [ih, rest, ByteArray.append_assoc, more]

theorem size_of_read (h : fs.read path = .ok content) : fs.size path = .ok content.size := by
  obtain ⟨place, found⟩ := FileTree.read_eq_ok.mp h
  simp [FileTree.size, found, bind, Except.bind]

theorem openObject_of_read (h : fs.read path = .ok content) : openObject fs path = .ok content.size := by
  rw [openObject, size_of_read h]

theorem slice_of_read (h : fs.read path = .ok content) (offset want : Nat) :
    slice fs path offset want = .ok (content.extract offset (offset + want)) := by
  unfold slice
  split
  · next none =>
    rw [none, Nat.add_zero, ByteArray.extract_same]
  · rw [h]
    show Except.ok _ = _
    rw [readUpTo_eq (fun _ => by decide), ByteArray.empty_append]

theorem fetchChunk_of_read (h : fs.read (sourcePath root location) = .ok content) (offset limit : Nat) :
    fetchChunk fs root location offset limit = .ok (content.extract offset (offset + limit)) := by
  unfold fetchChunk
  simp only [openObject_of_read h, bind, Except.bind]
  by_cases beyond : offset ≥ content.size
  · rw [if_pos beyond, (ByteArray.extract_eq_empty_iff).mpr (by omega)]
    rfl
  · rw [if_neg beyond]
    refine (slice_of_read h ..).trans (congrArg Except.ok ?_)
    apply extract_congr <;> omega

theorem fetchWhole_of_read (h : fs.read (sourcePath root location) = .ok content) (limit : Nat) :
    fetchWhole fs root location limit = .ok (content.extract 0 limit) := by
  unfold fetchWhole
  simp only [openObject_of_read h, bind, Except.bind]
  refine (slice_of_read h ..).trans (congrArg Except.ok ?_)
  apply extract_congr <;> omega

end Disk

namespace Sandbox

namespace Objects

variable {o : Objects} {location : String} {content : Bytes}

/-- Whether there is an object of some content at a location, and nothing that keeps it back. -/
structure Has (o : Objects) (location : String) (content : Bytes) : Prop where
  found : o.find location = .ok content
  sound : o.failures = 0
  full : o.emptyOnce = []

theorem Has.find_eq {o' : Objects} (has : o.Has location content) (entries : o'.entries = o.entries) :
    o'.find location = .ok content := by
  rw [← has.found, find, find, entries]

theorem Has.chunk (has : o.Has location content) (short : content.size < wordLimit) (offset limit : Nat) :
    (o.chunk location offset limit).1 = .ok (content.extract offset (offset + limit)) ∧
      (o.chunk location offset limit).2.Has location content := by
  have place : content.extract (min offset content.size)
      (min (saturatingSum offset limit) content.size) = content.extract offset (offset + limit) := by
    have largest : content.size ≤ UInt64.size - 1 := Nat.le_sub_one_of_lt short
    unfold saturatingSum
    apply extract_congr <;> omega
  unfold Objects.chunk
  simp only [takeOne, has.sound, has.full, List.contains_nil, Nat.lt_irrefl, decide_false,
    Bool.false_eq_true, if_false, has.find_eq, Except.map, place, true_and]
  exact ⟨has.find_eq rfl, rfl, rfl⟩

theorem chunk_requests (o : Objects) (requests : List (Nat × Nat)) (location : String) (offset limit : Nat) :
    (({ o with requests }).chunk location offset limit).1 = (o.chunk location offset limit).1 := by
  unfold Objects.chunk
  dsimp only
  split_ifs <;> rfl

theorem Has.whole (has : o.Has location content) (limit : Nat) :
    (o.whole location limit).1 = .ok (content.extract 0 limit) ∧
      (o.whole location limit).2.Has location content := by
  have place : content.extract 0 (min limit content.size) = content.extract 0 limit := by
    apply extract_congr <;> omega
  unfold Objects.whole
  simp only [takeOne, has.sound, Nat.lt_irrefl, decide_false, Bool.false_eq_true, if_false,
    has.find_eq, Except.map, place, true_and]
  exact ⟨has.find_eq rfl, rfl, has.full⟩

end Objects

namespace Source

/-- A chunk from a source that has the files of a tree, and the source after it has served the chunk. -/
def chunk (source : Source) (files : FileTree) (location : String) (offset limit : Nat) :
    Except CallError Bytes × Source :=
  match source with
  | .disk root => (Disk.fetchChunk files root location offset limit, .disk root)
  | .objects o => ((o.chunk location offset limit).1, .objects (o.chunk location offset limit).2)

def whole (source : Source) (files : FileTree) (location : String) (limit : Nat) :
    Except CallError Bytes × Source :=
  match source with
  | .disk root => (Disk.fetchWhole files root location limit, .disk root)
  | .objects o => ((o.whole location limit).1, .objects (o.whole location limit).2)

/-- Whether a source has a content at a location, as that of a regular file or in memory. -/
def Has (source : Source) (files : FileTree) (location : String) (content : Bytes) : Prop :=
  match source with
  | .disk root => files.read (Disk.sourcePath root location) = .ok content
  | .objects o => o.Has location content

variable {source source' : Source} {files : FileTree} {location : String} {content : Bytes}
  {size offset : Nat} {chunks : List Bytes}

theorem Has.chunk (has : source.Has files location content) (short : content.size < wordLimit)
    (offset limit : Nat) :
    (source.chunk files location offset limit).1 = .ok (content.extract offset (offset + limit)) ∧
      (source.chunk files location offset limit).2.Has files location content := by
  cases source with
  | disk root => exact ⟨Disk.fetchChunk_of_read has offset limit, has⟩
  | objects o => exact Objects.Has.chunk has short offset limit

theorem Has.whole (has : source.Has files location content) (limit : Nat) :
    (source.whole files location limit).1 = .ok (content.extract 0 limit) ∧
      (source.whole files location limit).2.Has files location content := by
  cases source with
  | disk root => exact ⟨Disk.fetchWhole_of_read has limit, has⟩
  | objects o => exact Objects.Has.whole has limit

/-- Asking for chunk after chunk, from an offset on, until the first empty one. -/
inductive Drains (files : FileTree) (location : String) (size : Nat) :
    Source → (offset : Nat) → List Bytes → Source → Prop where
  | ended {source source' : Source} {offset : Nat} {chunk : Bytes}
      (served : source.chunk files location offset size = (.ok chunk, source')) (empty : chunk.size = 0) :
      Drains files location size source offset [] source'
  | more {source source₁ source' : Source} {offset : Nat} {chunk : Bytes} {chunks : List Bytes}
      (served : source.chunk files location offset size = (.ok chunk, source₁)) (filled : chunk.size ≠ 0)
      (others : Drains files location size source₁ (offset + size) chunks source') :
      Drains files location size source offset (chunk :: chunks) source'

theorem ceilDiv_sub_succ {left : Nat} (positive : 0 < size) (more : 0 < left) :
    (left - size) ⌈/⌉ size + 1 = left ⌈/⌉ size := by
  rw [Nat.ceilDiv_eq_add_pred_div, Nat.ceilDiv_eq_add_pred_div, ← Nat.add_div_right _ positive]
  by_cases last : left ≤ size
  · rw [Nat.div_eq_of_lt_le (k := 1) (by omega) (by omega), Nat.div_eq_of_lt_le (k := 1) (by omega) (by omega)]
  · congr 1
    omega

/-- The last chunk that is asked for begins at an offset that a word holds. -/
theorem ceilDiv_mul_lt {left : Nat} (small : left < 2 ^ 63) (word : size < UInt64.size) :
    left ⌈/⌉ size * size < UInt64.size := by
  have limit : UInt64.size = 2 ^ 64 := rfl
  rw [Nat.ceilDiv_eq_add_pred_div]
  by_cases last : left ≤ size
  · have one : (left + size - 1) / size ≤ 1 := by
      rcases Nat.eq_zero_or_pos size with rfl | positive
      · rw [Nat.div_zero]
        exact Nat.zero_le 1
      · exact Nat.le_of_lt_succ (Nat.div_lt_of_lt_mul (by omega))
    have upto := Nat.mul_le_mul_right size one
    omega
  · have upto := Nat.div_mul_le_self (left + size - 1) size
    omega

def joined (chunks : List Bytes) : Bytes :=
  chunks.foldr (· ++ ·) ByteArray.empty

theorem Has.served {chunk : Bytes} (has : source.Has files location content)
    (short : content.size < wordLimit)
    (served : source.chunk files location offset size = (.ok chunk, source')) :
    chunk = content.extract offset (offset + size) ∧ source'.Has files location content := by
  obtain ⟨given, kept⟩ := has.chunk short offset size
  rw [served] at given kept
  exact ⟨Except.ok.inj given, kept⟩

/-- The chunks from an offset on are what there is of the object from there. -/
theorem Drains.joined_eq (drains : Drains files location size source offset chunks source')
    (has : source.Has files location content) (short : content.size < wordLimit) (positive : 0 < size) :
    joined chunks = content.extract offset content.size ∧
      chunks.length = (content.size - offset) ⌈/⌉ size := by
  induction drains with
  | @ended _ _ offset chunk served empty =>
    obtain ⟨rfl, -⟩ := has.served short served
    rw [ByteArray.size_extract] at empty
    have beyond : content.size - offset = 0 := by omega
    refine ⟨((ByteArray.extract_eq_empty_iff).mpr (by omega)).symm, ?_⟩
    rw [beyond, zero_ceilDiv]
    rfl
  | @more _ _ _ offset chunk chunks served filled others ih =>
    obtain ⟨rfl, kept⟩ := has.served short served
    obtain ⟨rest, count⟩ := ih kept
    rw [ByteArray.size_extract] at filled
    constructor
    · show content.extract offset (offset + size) ++ joined chunks = _
      rw [rest, ByteArray.extract_append_extract]
      apply extract_congr <;> omega
    · rw [List.length_cons, count, ← Nat.sub_sub, ceilDiv_sub_succ positive (by omega)]

theorem Has.exists_drains (has : source.Has files location content) (short : content.size < wordLimit)
    (positive : 0 < size) (offset : Nat) :
    ∃ chunks source', Drains files location size source offset chunks source' := by
  -- Every chunk that is not empty leaves less of the object to come.
  generalize left : content.size - offset = rest
  induction rest using Nat.strongRecOn generalizing source offset with
  | ind rest ih =>
    obtain ⟨given, kept⟩ := has.chunk short offset size
    have served : source.chunk files location offset size = (.ok _, _) := Prod.ext given rfl
    by_cases empty : (content.extract offset (offset + size)).size = 0
    · exact ⟨[], _, .ended served empty⟩
    · have nearer : content.size - (offset + size) < rest := by
        rw [ByteArray.size_extract] at empty
        omega
      obtain ⟨chunks, source', others⟩ := ih _ nearer kept (offset + size) rfl
      exact ⟨_, source', .more served empty others⟩

end Source

section Settling

variable {w : World} {token : Option TaskId} {location : String}

theorem fire_source (w : World) (alarm : Alarm) : (w.fire alarm).source = w.source := by
  cases alarm with
  | cancel task =>
    show (w.cancel task).source = w.source
    unfold World.cancel
    split <;> rfl
  | remove path => rfl

theorem pass_source (w : World) (deadline : Nat) (watch : Option TaskId) :
    (w.pass deadline watch).source = w.source := by
  refine World.pass_induction (I := fun m => m.source = w.source) ?_ ?_ rfl deadline watch
  · intro m time alarm rest _ same
    exact (fire_source _ alarm).trans same
  · intro m now _ _ same
    exact same

theorem fault_done {o : Objects} (objects : w.source = .objects o) (unscripted : o.script = []) :
    fault token takeObjectFault w = .done .pass w := by
  obtain ⟨entries, delay, failures, emptyOnce, script, requests, chunks, wholes⟩ := o
  obtain rfl : script = [] := unscripted
  cases w
  obtain rfl := objects
  rfl

theorem fetchObject_settle {o : Objects} (objects : w.source = .objects o) (unscripted : o.script = [])
    (serve : Objects → Except CallError Bytes × Objects) :
    (fetchObject token serve w).settle.1 = (serve o).1 := by
  have serves {w' : World} (same : w'.source = .objects o) :
      (Activity.act (onObjects (.ok ByteArray.empty) serve) w').settle.1 = (serve o).1 := by
    simp only [Activity.act, onObjects, same]
    rfl
  show ((fault token takeObjectFault w).bind _).settle.1 = _
  rw [fault_done objects unscripted]
  show (((Activity.sleep w.objects.delay) w).bind fun _ => Activity.act _).settle.1 = _
  rw [settle_bind]
  refine serves ?_
  unfold Activity.sleep
  split
  · exact objects
  · exact (pass_source ..).trans objects

theorem objects_script {o : Objects} (objects : w.source = .objects o)
    (unscripted : w.objects.script = []) : o.script = [] := by
  rw [World.objects, objects] at unscripted
  exact unscripted

/-- A world that has no script for its objects answers as its source does. -/
theorem fetchChunk_settle (unscripted : w.objects.script = []) (offset limit : Nat) :
    (fetchChunk token location offset limit w).settle.1 =
      (w.source.chunk w.files location offset limit).1 := by
  simp only [fetchChunk, bind, Activity.bind, Activity.look, Outcome.bind]
  cases same : w.source with
  | disk root => rfl
  | objects o =>
    have noted : (w.changeObjects fun o => { o with requests := o.requests ++ [(offset, limit)] }).source =
        .objects { o with requests := o.requests ++ [(offset, limit)] } := by
      rw [World.changeObjects, same]
    have empty : o.script = [] := objects_script same unscripted
    refine (fetchObject_settle noted empty fun o => o.chunk location offset limit).trans ?_
    exact Objects.chunk_requests ..

theorem fetchWhole_settle (unscripted : w.objects.script = []) (limit : Nat) :
    (fetchWhole token location limit w).settle.1 = (w.source.whole w.files location limit).1 := by
  simp only [fetchWhole, bind, Activity.bind, Activity.look, Outcome.bind]
  cases same : w.source with
  | disk root => rfl
  | objects o => exact fetchObject_settle same (objects_script same unscripted) _

end Settling

end Sandbox

end Courier
