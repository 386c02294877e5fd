import Courier.Cache.FileLookup
import Mathlib.Data.List.Induction

/-! Which file a lookup gives for a digest: the last one that was kept under it. That is a file with
the same text as the one asked for, though not always the same file, since the text writes location,
size and name one after another with nothing between them. -/
namespace Courier

namespace ExpiringCache

variable {κ ν : Type} [BEq κ] {cache : ExpiringCache κ ν} {now : Nat} {key : κ} {value : ν}

theorem get_keeps (now : Nat) (key : κ) : (cache.get now key).2.clockEnd = cache.clockEnd ∧
    (cache.get now key).2.lifetime = cache.lifetime := by
  unfold get
  split
  · split <;> exact ⟨rfl, rfl⟩
  · exact ⟨rfl, rfl⟩

theorem remove_keeps (now : Nat) (key : κ) : (cache.remove now key).2.clockEnd = cache.clockEnd ∧
    (cache.remove now key).2.lifetime = cache.lifetime := by
  unfold remove
  split <;> exact ⟨rfl, rfl⟩

theorem without_sublist (cache : ExpiringCache κ ν) (key : κ) :
    (cache.without key).entries.Sublist cache.entries :=
  List.filter_sublist

theorem get_sublist (now : Nat) (key : κ) :
    (cache.get now key).2.entries.Sublist cache.entries := by
  unfold get
  split
  · split
    · exact List.Sublist.refl _
    · exact cache.without_sublist key
  · exact List.Sublist.refl _

theorem remove_sublist (now : Nat) (key : κ) :
    (cache.remove now key).2.entries.Sublist cache.entries := by
  unfold remove
  split
  · exact cache.without_sublist key
  · exact List.Sublist.refl _

variable [LawfulBEq κ]

theorem mem_without {entry : κ × ν × Nat} :
    entry ∈ (cache.without key).entries ↔ entry ∈ cache.entries ∧ entry.1 ≠ key := by
  simp [without]

theorem mem_put {entry : κ × ν × Nat} : entry ∈ (cache.put now key value).entries ↔
    entry = (key, value, now + cache.lifetime) ∨ entry ∈ cache.entries ∧ entry.1 ≠ key := by
  simp only [put, List.mem_cons, mem_without]

theorem find?_put_self (cache : ExpiringCache κ ν) (now : Nat) (key : κ) (value : ν) :
    (cache.put now key value).find? key = some (key, value, now + cache.lifetime) := by
  simp [find?, put]

theorem mem_of_find? {entry : κ × ν × Nat} (h : cache.find? key = some entry) :
    entry ∈ cache.entries ∧ entry.1 = key :=
  ⟨List.mem_of_find?_eq_some h, by simpa using List.find?_some h⟩

theorem get_gives (h : (cache.get now key).1 = some value) :
    ∃ dies, (key, value, dies) ∈ cache.entries := by
  unfold get at h
  split at h
  · next entry found =>
    obtain ⟨mem, rfl⟩ := mem_of_find? found
    split at h
    · rw [← Option.some.inj h]
      exact ⟨entry.2.2, mem⟩
    · contradiction
  · contradiction

theorem remove_gives (h : (cache.remove now key).1 = some value) :
    ∃ dies, (key, value, dies) ∈ cache.entries := by
  unfold remove at h
  split at h
  · next entry found =>
    obtain ⟨mem, rfl⟩ := mem_of_find? found
    split at h
    · rw [← Option.some.inj h]
      exact ⟨entry.2.2, mem⟩
    · contradiction
  · contradiction

end ExpiringCache

def RemoteFile.hashed (file : RemoteFile) : String :=
  file.location ++ toString file.size ++ file.name

theorem RemoteFile.hash_eq (file : RemoteFile) : file.hash = Digest.sha256Hex file.hashed := rfl

/-- Texts are the same for the same file only, if what comes before and after the size is as long. -/
theorem RemoteFile.eq_of_hashed_eq {f g : RemoteFile} (same : f.hashed = g.hashed)
    (location : f.location.length = g.location.length) (name : f.name.length = g.name.length) :
    f = g := by
  have chars := congrArg String.toList same
  simp only [hashed, String.toList_append] at chars
  rw [← String.length_toList, ← String.length_toList] at location name
  -- The name is cut off from the back by its length and the location from the front.
  obtain ⟨front, hname⟩ := List.append_inj' chars name
  obtain ⟨hlocation, hsize⟩ := List.append_inj front location
  have digits : Nat.toDigits 10 f.size = Nat.toDigits 10 g.size := by
    rw [← Nat.toList_repr, ← Nat.toList_repr]
    exact hsize
  have sizes : f.size = g.size := by
    rw [← @Nat.ofDigitChars_ten_toDigits f.size, digits, Nat.ofDigitChars_ten_toDigits]
  cases f
  cases g
  rw [RemoteFile.mk.injEq]
  exact ⟨String.toList_inj.mp hlocation, sizes, String.toList_inj.mp hname⟩

theorem RemoteFile.hashed_ne_of_one_field {f g : RemoteFile} (differ : f ≠ g)
    (others : f.location = g.location ∧ f.size = g.size ∨ f.location = g.location ∧ f.name = g.name ∨
      f.size = g.size ∧ f.name = g.name) : f.hashed ≠ g.hashed := by
  intro same
  have lengths := congrArg String.length same
  simp only [hashed, String.length_append] at lengths
  obtain ⟨hl, hs⟩ | ⟨hl, hn⟩ | ⟨hs, hn⟩ := others
  · rw [hl, hs] at lengths
    exact differ (eq_of_hashed_eq same (congrArg String.length hl) (by omega))
  · exact differ (eq_of_hashed_eq same (congrArg String.length hl) (congrArg String.length hn))
  · rw [hs, hn] at lengths
    exact differ (eq_of_hashed_eq same (by omega) (congrArg String.length hn))

namespace FileLookup

inductive Call where
  | remember (file : RemoteFile)
  | get (key : String)
  | take (key : String)
  | purge

/-- What a call at a time makes of a lookup. One that breaks off leaves it as it was. -/
def next (lookup : FileLookup) (now : Nat) : Call → FileLookup
  | .remember file => ((lookup.remember? now file).map (·.2)).getD lookup
  | .get key => (ExpiringCache.get lookup now key).2
  | .take key => (ExpiringCache.remove lookup now key).2
  | .purge => (ExpiringCache.purge lookup now).2

/-- Calls with their times, first to last. -/
abbrev Calls := List (Nat × Call)

def after (clockEnd lifetime : Nat) (calls : Calls) : FileLookup :=
  calls.foldl (fun lookup call => lookup.next call.1 call.2) (.new clockEnd lifetime)

/-- Whether a call comes to its end. A file is kept only if the clock does not end before its time. -/
def Call.ends (clockEnd lifetime now : Nat) : Call → Bool
  | .remember _ => now + lifetime ≤ clockEnd
  | _ => true

def ended (clockEnd lifetime : Nat) (calls : Calls) : Calls :=
  calls.filter fun call => call.2.ends clockEnd lifetime call.1

def Call.remembered? : Call → Option RemoteFile
  | .remember file => some file
  | _ => none

def remembered (calls : Calls) : List RemoteFile :=
  calls.filterMap fun call => call.2.remembered?

/-- The last file that was kept under a key. -/
def last? (calls : Calls) (key : String) : Option RemoteFile :=
  (remembered calls).reverse.find? (·.hash == key)

@[simp] theorem after_concat (clockEnd lifetime : Nat) (calls : Calls) (now : Nat) (call : Call) :
    after clockEnd lifetime (calls ++ [(now, call)]) =
      (after clockEnd lifetime calls).next now call := by
  simp [after]

theorem ended_concat (clockEnd lifetime : Nat) (calls : Calls) (now : Nat) (call : Call) :
    ended clockEnd lifetime (calls ++ [(now, call)]) = if call.ends clockEnd lifetime now
      then ended clockEnd lifetime calls ++ [(now, call)] else ended clockEnd lifetime calls := by
  rw [ended, List.filter_append]
  split <;> simp_all [ended]

theorem remember?_eq (lookup : FileLookup) (now : Nat) (file : RemoteFile) :
    lookup.remember? now file = if now + lookup.lifetime ≤ lookup.clockEnd
      then some (file.hash, ExpiringCache.put lookup now file.hash file) else none := by
  unfold remember? ExpiringCache.insert?
  split <;> rfl

theorem next_keeps (lookup : FileLookup) (now : Nat) (call : Call) :
    (lookup.next now call).clockEnd = lookup.clockEnd ∧
      (lookup.next now call).lifetime = lookup.lifetime := by
  cases call with
  | remember file =>
    rw [next, remember?_eq]
    split <;> exact ⟨rfl, rfl⟩
  | get key => exact ExpiringCache.get_keeps now key
  | take key => exact ExpiringCache.remove_keeps now key
  | purge => exact ⟨rfl, rfl⟩

theorem after_keeps (clockEnd lifetime : Nat) (calls : Calls) :
    (after clockEnd lifetime calls).clockEnd = clockEnd ∧
      (after clockEnd lifetime calls).lifetime = lifetime := by
  induction calls using List.reverseRecOn with
  | nil => exact ⟨rfl, rfl⟩
  | append_singleton calls call ih =>
    rw [after_concat]
    obtain ⟨clock, time⟩ := next_keeps (after clockEnd lifetime calls) call.1 call.2
    exact ⟨clock.trans ih.1, time.trans ih.2⟩

theorem last?_concat (calls : Calls) (now : Nat) (call : Call) (key : String) :
    last? (calls ++ [(now, call)]) key =
      (call.remembered?.filter (·.hash == key)).or (last? calls key) := by
  unfold last? remembered
  rw [List.filterMap_append, List.reverse_append, List.find?_append]
  cases call with
  | remember file => by_cases h : file.hash = key <;> simp [Call.remembered?, Option.filter, h]
  | get key => rfl
  | take key => rfl
  | purge => rfl

theorem last?_eq_some {calls : Calls} {key : String} {file : RemoteFile}
    (h : last? calls key = some file) : file ∈ remembered calls ∧ file.hash = key :=
  ⟨List.mem_reverse.mp (List.mem_of_find?_eq_some h), by simpa using List.find?_some h⟩

/-- All that a lookup has is the last file under its key. -/
def Latest (calls : Calls) (lookup : FileLookup) : Prop :=
  ∀ entry ∈ lookup.entries, last? calls entry.1 = some entry.2.1

theorem next_of_broken_off {lookup : FileLookup} {now : Nat} {call : Call}
    (breaks : ¬ call.ends lookup.clockEnd lookup.lifetime now) : lookup.next now call = lookup := by
  cases call with
  | remember file =>
    rw [next, remember?_eq, if_neg fun late => breaks (decide_eq_true late)]
    rfl
  | _ => exact absurd rfl breaks

theorem Latest.next {calls : Calls} {lookup : FileLookup} (latest : Latest calls lookup) {now : Nat}
    {call : Call} (ends : call.ends lookup.clockEnd lookup.lifetime now) :
    Latest (calls ++ [(now, call)]) (lookup.next now call) := by
  have fewer (kept : call.remembered? = none)
      (subset : (lookup.next now call).entries ⊆ lookup.entries) :
      Latest (calls ++ [(now, call)]) (lookup.next now call) := by
    intro entry mem
    rw [last?_concat, kept]
    exact latest entry (subset mem)
  cases call with
  | remember file =>
    -- The new entry takes the place of an old one under its key, and others stay as they are.
    intro entry mem
    rw [FileLookup.next, remember?_eq, if_pos (of_decide_eq_true ends)] at mem
    rw [last?_concat]
    obtain rfl | ⟨old, other⟩ := ExpiringCache.mem_put.mp mem
    · simp [Call.remembered?]
    · simpa [Call.remembered?, Option.filter, Ne.symm other] using latest entry old
  | get key => exact fewer rfl (ExpiringCache.get_sublist now key).subset
  | take key => exact fewer rfl (ExpiringCache.remove_sublist now key).subset
  | purge => exact fewer rfl (List.filter_sublist.subset)

theorem latest_after (clockEnd lifetime : Nat) (calls : Calls) :
    Latest (ended clockEnd lifetime calls) (after clockEnd lifetime calls) := by
  induction calls using List.reverseRecOn with
  | nil => simp [Latest, after, ExpiringCache.new]
  | append_singleton calls call ih =>
    obtain ⟨clock, time⟩ := after_keeps clockEnd lifetime calls
    have ends_iff : call.2.ends clockEnd lifetime call.1 = call.2.ends
        (after clockEnd lifetime calls).clockEnd (after clockEnd lifetime calls).lifetime call.1 := by
      rw [clock, time]
    rw [after_concat, ended_concat]
    split
    · next ends => exact ih.next (ends_iff ▸ ends)
    · next breaks =>
      rw [next_of_broken_off (ends_iff ▸ breaks)]
      exact ih

/-- What a lookup gives for a key, whether it keeps it on or not. -/
def Gives (lookup : FileLookup) (now : Nat) (key : String) (file : RemoteFile) : Prop :=
  (ExpiringCache.get lookup now key).1 = some file ∨
    (ExpiringCache.remove lookup now key).1 = some file

theorem last?_of_gives {clockEnd lifetime now : Nat} {calls : Calls} {key : String}
    {file : RemoteFile} (gives : Gives (after clockEnd lifetime calls) now key file) :
    last? (ended clockEnd lifetime calls) key = some file := by
  have held : ∃ dies, (key, file, dies) ∈ (after clockEnd lifetime calls).entries := by
    obtain got | taken := gives
    · exact ExpiringCache.get_gives got
    · exact ExpiringCache.remove_gives taken
  obtain ⟨dies, mem⟩ := held
  exact latest_after clockEnd lifetime calls (key, file, dies) mem

theorem put_gives (lookup : FileLookup) (file : RemoteFile) {kept now : Nat}
    (live : now < kept + lookup.lifetime) :
    (ExpiringCache.get (ExpiringCache.put lookup kept file.hash file) now file.hash).1 = some file ∧
      (ExpiringCache.remove (ExpiringCache.put lookup kept file.hash file) now file.hash).1 =
        some file := by
  have found := ExpiringCache.find?_put_self lookup kept file.hash file
  simp only [ExpiringCache.get, ExpiringCache.remove, found, ExpiringCache.isLive, live]
  simp

/-- Whether the digest tells all texts apart that have been hashed. -/
def NoCollision (calls : Calls) : Prop :=
  ∀ f ∈ remembered calls, ∀ g ∈ remembered calls,
    Digest.sha256Hex f.hashed = Digest.sha256Hex g.hashed → f.hashed = g.hashed

/-- A file is kept unless the clock ends before its time does. A lookup gives it for as long as it
lives and no other is kept under its key, and it never gives anything but the last file under the key.
As far as no two different texts have one digest, that is a file with the text of the one that is asked
for; it is that one if nothing but the place where one field ends and the next begins could tell the two
apart. -/
theorem gives_last_with_text (clockEnd lifetime : Nat) (calls : Calls) :
    (∀ f kept, ((after clockEnd lifetime calls).remember? kept f).isSome ↔
      kept + lifetime ≤ clockEnd) ∧
    (∀ f kept key lookup, (after clockEnd lifetime calls).remember? kept f = some (key, lookup) →
      lookup = after clockEnd lifetime (calls ++ [(kept, .remember f)]) ∧
      ∀ now, now < kept + lifetime → (ExpiringCache.get lookup now key).1 = some f ∧
        (ExpiringCache.remove lookup now key).1 = some f) ∧
    (∀ key now g, Gives (after clockEnd lifetime calls) now key g →
      last? (ended clockEnd lifetime calls) key = some g) ∧
    (NoCollision (ended clockEnd lifetime calls) →
      ∀ f ∈ remembered (ended clockEnd lifetime calls), ∀ now g,
      Gives (after clockEnd lifetime calls) now f.hash g → g.hashed = f.hashed ∧
        (g.location.length = f.location.length → g.name.length = f.name.length → g = f) ∧
        (g.location = f.location ∧ g.size = f.size ∨ g.location = f.location ∧ g.name = f.name ∨
          g.size = f.size ∧ g.name = f.name → g = f)) := by
  obtain ⟨clock, time⟩ := after_keeps clockEnd lifetime calls
  refine ⟨fun f kept => ?_, fun f kept key lookup keeps => ?_, fun key now g => last?_of_gives, ?_⟩
  · rw [remember?_eq, clock, time]
    split <;> simp_all
  · have next := after_concat clockEnd lifetime calls kept (.remember f)
    rw [FileLookup.next, keeps] at next
    refine ⟨next.symm, fun now live => ?_⟩
    rw [remember?_eq] at keeps
    split at keeps
    · obtain ⟨rfl, rfl⟩ := Prod.mk.inj (Option.some.inj keeps)
      exact put_gives _ f (by rwa [time])
    · contradiction
  · intro apart f hf now g gives
    obtain ⟨hg, same⟩ := last?_eq_some (last?_of_gives gives)
    have text : g.hashed = f.hashed := apart g hg f hf same
    refine ⟨text, RemoteFile.eq_of_hashed_eq text, fun others => ?_⟩
    by_contra differ
    exact RemoteFile.hashed_ne_of_one_field differ others text

/-- A digit may belong to the size or to the name, and to the location or to the size. -/
def joined : RemoteFile × RemoteFile := (⟨"a", 1, "2b"⟩, ⟨"a1", 2, "b"⟩)

/-- Two files with one text: the key of the first gives the second. -/
theorem gives_other_file :
    let calls := [(0, Call.remember joined.1), (0, Call.remember joined.2)]
    NoCollision calls ∧ ended 9 1 calls = calls ∧
      Gives (after 9 1 calls) 0 joined.1.hash joined.2 ∧ joined.2 ≠ joined.1 := by
  have text : joined.1.hashed = joined.2.hashed := by decide
  refine ⟨?_, rfl, ?_, by decide⟩
  · intro f hf g hg _
    have all : ∀ file ∈ remembered [(0, .remember joined.1), (0, .remember joined.2)],
        file.hashed = joined.2.hashed := by
      simp [remembered, Call.remembered?, text]
    rw [all f hf, all g hg]
  · have key : joined.1.hash = joined.2.hash := by
      rw [RemoteFile.hash_eq, RemoteFile.hash_eq, text]
    rw [key, show after 9 1 [(0, .remember joined.1), (0, .remember joined.2)] =
      ExpiringCache.put (after 9 1 [(0, .remember joined.1)]) 0 joined.2.hash joined.2 from rfl]
    exact Or.inl (put_gives _ joined.2 (by decide)).1

end FileLookup

end Courier
