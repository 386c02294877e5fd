import Courier.Proofs.Cache.Answers
import Mathlib.Data.List.Induction
import Mathlib.Data.List.Nodup

/-! What a cache has to do with all that was asked of it before. When its entries go, on a look-up,
on a removal or in a purge, cannot be told from its answers: these depend on the last time something
was put in under the key, and on the clock. A call that would have to date an entry beyond the end of the
clock breaks off, and it might as well not have been made. -/
namespace Courier

namespace ExpiringCache

variable {κ ν : Type}

inductive Call (κ ν : Type) where
  | insert (key : κ) (value : ν)
  | get (key : κ)
  | remove (key : κ)
  | purge
  | size

/-- The key whose value a call sets or takes away. -/
def Call.written? : Call κ ν → Option κ
  | .insert key _ => some key
  | .remove key => some key
  | _ => none

abbrev Calls (κ ν : Type) := List (Nat × Call κ ν)

/-- Whether a call comes to its end. A value is put in only if the clock does not end before its time. -/
def Call.ends (clockEnd lifetime now : Nat) : Call κ ν → Bool
  | .insert _ _ => now + lifetime ≤ clockEnd
  | _ => true

def Calls.ended (clockEnd lifetime : Nat) (calls : Calls κ ν) : Calls κ ν :=
  calls.filter fun call => call.2.ends clockEnd lifetime call.1

/-- Whether the value of a key is as it was before some calls. -/
def Calls.Spare (calls : Calls κ ν) (key : κ) : Prop :=
  ∀ call ∈ calls, call.2.written? ≠ some key

/-- Whether the last call that set a key or took it away put a value in, and when it did. -/
def Calls.LastPut (calls : Calls κ ν) (key : κ) (time : Nat) (value : ν) : Prop :=
  ∃ before later, calls = before ++ (time, .insert key value) :: later ∧ Calls.Spare later key

/-- Whether nothing is put in under a key. -/
def Calls.PutsNone (calls : Calls κ ν) (key : κ) : Prop :=
  ∀ call ∈ calls, ∀ value, call.2 ≠ .insert key value

/-- Whether no call comes after a time. -/
def Calls.Until (calls : Calls κ ν) (now : Nat) : Prop :=
  ∀ call ∈ calls, call.1 ≤ now

theorem Calls.lastPut_concat {calls : Calls κ ν} {now : Nat} {call : Call κ ν} {key : κ}
    {time : Nat} {value : ν} : Calls.LastPut (calls ++ [(now, call)]) key time value ↔
      call = .insert key value ∧ time = now ∨
        call.written? ≠ some key ∧ calls.LastPut key time value := by
  constructor
  · rintro ⟨before, later, split, spare⟩
    obtain rfl | ⟨later, last, rfl⟩ := later.eq_nil_or_concat'
    · obtain ⟨-, last⟩ := List.append_inj' split rfl
      simp only [List.cons.injEq, Prod.mk.injEq, and_true] at last
      exact Or.inl ⟨last.2, last.1.symm⟩
    · rw [← List.cons_append, ← List.append_assoc] at split
      obtain ⟨rfl, last⟩ := List.append_inj' split rfl
      obtain rfl := List.singleton_inj.mp last
      exact Or.inr ⟨spare (now, call) (by simp), before, later, rfl,
        fun call mem => spare call (List.mem_append_left _ mem)⟩
  · rintro (⟨rfl, rfl⟩ | ⟨other, before, later, rfl, spare⟩)
    · exact ⟨calls, [], rfl, fun call mem => absurd mem List.not_mem_nil⟩
    · refine ⟨before, later ++ [(now, call)], by simp, fun call mem => ?_⟩
      obtain mem | rfl := List.mem_append.mp mem |>.imp_right List.mem_singleton.mp
      · exact spare call mem
      · exact other

theorem Calls.lastPut_append {calls later : Calls κ ν} {key : κ} {time : Nat} {value : ν}
    (spare : Calls.Spare later key) :
    Calls.LastPut (calls ++ later) key time value ↔ calls.LastPut key time value := by
  induction later using List.reverseRecOn with
  | nil => rw [List.append_nil]
  | append_singleton later call ih =>
    have other : call.2.written? ≠ some key := spare call (by simp)
    have rest : Calls.Spare later key := fun call mem => spare call (List.mem_append_left _ mem)
    rw [← List.append_assoc, lastPut_concat, ih rest]
    constructor
    · rintro (⟨put, -⟩ | ⟨-, put⟩)
      · exact absurd (by rw [put]; rfl) other
      · exact put
    · exact fun put => Or.inr ⟨other, put⟩

theorem Calls.LastPut.unique {calls : Calls κ ν} {key : κ} {time time' : Nat} {value value' : ν}
    (put : calls.LastPut key time value) (put' : calls.LastPut key time' value') :
    time = time' ∧ value = value' := by
  induction calls using List.reverseRecOn with
  | nil =>
    obtain ⟨before, later, split, -⟩ := put
    simp at split
  | append_singleton calls call ih =>
    rw [lastPut_concat] at put put'
    obtain ⟨same, rfl⟩ | ⟨other, put⟩ := put
    · obtain ⟨same', rfl⟩ | ⟨other', -⟩ := put'
      · rw [same, Call.insert.injEq] at same'
        exact ⟨rfl, same'.2⟩
      · exact absurd (by rw [same]; rfl) other'
    · obtain ⟨same', -⟩ | ⟨-, put'⟩ := put'
      · exact absurd (by rw [same']; rfl) other
      · exact ih put put'

theorem Calls.lastPut_insert {calls later : Calls κ ν} {now : Nat} {key : κ} {new : ν}
    (spare : Calls.Spare later key) {time : Nat} {value : ν} :
    Calls.LastPut (calls ++ (now, .insert key new) :: later) key time value ↔
      time = now ∧ value = new := by
  rw [List.append_cons, lastPut_append spare, lastPut_concat]
  simp [Call.written?, and_comm, eq_comm]

theorem Calls.lastPut_skip {calls later : Calls κ ν} {call : Nat × Call κ ν} {key : κ}
    (spare : call.2.written? ≠ some key) {time : Nat} {value : ν} :
    Calls.LastPut (calls ++ call :: later) key time value ↔
      Calls.LastPut (calls ++ later) key time value := by
  induction later using List.reverseRecOn with
  | nil =>
    rw [List.append_nil]
    exact lastPut_append fun only mem => by rwa [List.mem_singleton.mp mem]
  | append_singleton later last ih =>
    rw [← List.cons_append, ← List.append_assoc, ← List.append_assoc, lastPut_concat,
      lastPut_concat, ih]

theorem Calls.LastPut.of_append {calls later : Calls κ ν} {key : κ} {time : Nat} {value : ν}
    (none : Calls.PutsNone later key)
    (put : Calls.LastPut (calls ++ later) key time value) : calls.LastPut key time value := by
  induction later using List.reverseRecOn with
  | nil => rwa [List.append_nil] at put
  | append_singleton later last ih =>
    rw [← List.append_assoc, lastPut_concat] at put
    obtain ⟨put, -⟩ | ⟨-, put⟩ := put
    · exact absurd put (none last (by simp) value)
    · exact ih (fun call mem => none call (List.mem_append_left _ mem)) put

theorem Calls.Until.append {calls rest : Calls κ ν} {now later : Nat} (past : calls.Until now)
    (le : now ≤ later) (past' : Calls.Until rest later) : Calls.Until (calls ++ rest) later := by
  intro call mem
  obtain mem | mem := List.mem_append.mp mem
  · exact Nat.le_trans (past call mem) le
  · exact past' call mem

theorem Calls.Until.cons {calls : Calls κ ν} {call : Nat × Call κ ν} {now : Nat}
    (le : call.1 ≤ now) (past : calls.Until now) : Calls.Until (call :: calls) now :=
  List.forall_mem_cons.mpr ⟨le, past⟩

theorem Calls.Until.ended {calls : Calls κ ν} {now : Nat} (past : calls.Until now)
    (clockEnd lifetime : Nat) : Calls.Until (calls.ended clockEnd lifetime) now :=
  fun call mem => past call (List.mem_of_mem_filter mem)

theorem Calls.ended_append (clockEnd lifetime : Nat) (calls rest : Calls κ ν) :
    Calls.ended clockEnd lifetime (calls ++ rest) =
      calls.ended clockEnd lifetime ++ Calls.ended clockEnd lifetime rest :=
  List.filter_append ..

theorem Calls.ended_cons_of_ends {clockEnd lifetime now : Nat} {call : Call κ ν}
    (ends : call.ends clockEnd lifetime now) (rest : Calls κ ν) :
    Calls.ended clockEnd lifetime ((now, call) :: rest) =
      (now, call) :: Calls.ended clockEnd lifetime rest :=
  List.filter_cons_of_pos ends

theorem Calls.ended_cons_of_broken_off {clockEnd lifetime now : Nat} {call : Call κ ν}
    (breaks : ¬ call.ends clockEnd lifetime now) (rest : Calls κ ν) :
    Calls.ended clockEnd lifetime ((now, call) :: rest) = Calls.ended clockEnd lifetime rest :=
  List.filter_cons_of_neg breaks

variable [BEq κ] {cache : ExpiringCache κ ν} {clockEnd lifetime now : Nat}

/-- What a call at a time makes of a cache. One that breaks off leaves it as it was. -/
def next (cache : ExpiringCache κ ν) (now : Nat) : Call κ ν → ExpiringCache κ ν
  | .insert key value => (cache.insert? now key value).getD cache
  | .get key => (cache.get now key).2
  | .remove key => (cache.remove now key).2
  | .purge => (cache.purge now).2
  | .size => cache

def after (clockEnd lifetime : Nat) (calls : Calls κ ν) : ExpiringCache κ ν :=
  calls.foldl (fun cache call => cache.next call.1 call.2) (.new clockEnd lifetime)

@[simp] theorem after_concat (clockEnd lifetime : Nat) (calls : Calls κ ν) (now : Nat)
    (call : Call κ ν) : after clockEnd lifetime (calls ++ [(now, call)]) =
      (after clockEnd lifetime calls).next now call := by
  simp [after]

theorem next_insert {key : κ} {value : ν}
    (ends : (Call.insert key value).ends cache.clockEnd cache.lifetime now) :
    cache.next now (.insert key value) = cache.put now key value := by
  rw [next, insert?, if_pos (of_decide_eq_true ends)]
  rfl

theorem next_of_broken_off {call : Call κ ν}
    (breaks : ¬ call.ends cache.clockEnd cache.lifetime now) : cache.next now call = cache := by
  cases call with
  | insert key value =>
    rw [next, insert?, if_neg fun late => breaks (decide_eq_true late)]
    rfl
  | _ => exact absurd rfl breaks

omit [BEq κ] in
def keys (cache : ExpiringCache κ ν) : List κ :=
  cache.entries.map (·.1)

omit [BEq κ] in
theorem length_keys (cache : ExpiringCache κ ν) : cache.keys.length = cache.size :=
  List.length_map _

theorem next_keeps (cache : ExpiringCache κ ν) (now : Nat) (call : Call κ ν) :
    (cache.next now call).clockEnd = cache.clockEnd ∧
      (cache.next now call).lifetime = cache.lifetime := by
  cases call with
  | insert key value =>
    rw [next, insert?]
    split <;> exact ⟨rfl, rfl⟩
  | get key => exact get_keeps now key
  | remove key => exact remove_keeps now key
  | purge => exact ⟨rfl, rfl⟩
  | size => exact ⟨rfl, rfl⟩

variable [LawfulBEq κ]

theorem find?_eq_some_iff {entry : κ × ν × Nat} {key : κ} (nodup : cache.keys.Nodup) :
    cache.find? key = some entry ↔ entry ∈ cache.entries ∧ entry.1 = key := by
  refine ⟨mem_of_find?, fun ⟨mem, same⟩ => ?_⟩
  have some : (cache.find? key).isSome := by
    rw [find?, List.find?_isSome]
    exact ⟨entry, mem, by simpa using same⟩
  obtain ⟨found, found_eq⟩ := Option.isSome_iff_exists.mp some
  obtain ⟨found_mem, found_key⟩ := mem_of_find? found_eq
  rw [found_eq, List.inj_on_of_nodup_map nodup found_mem mem (found_key.trans same.symm)]

theorem find?_eq_none_iff {key : κ} :
    cache.find? key = none ↔ ∀ entry ∈ cache.entries, entry.1 ≠ key := by
  simp [find?]

theorem get_eq_some_iff {key : κ} {value : ν} (nodup : cache.keys.Nodup) :
    (cache.get now key).1 = some value ↔
      ∃ dies, (key, value, dies) ∈ cache.entries ∧ now < dies := by
  constructor
  · intro given
    unfold get at given
    split at given
    · next entry found =>
      obtain ⟨mem, rfl⟩ := mem_of_find? found
      split at given
      · next live =>
        rw [← Option.some.inj given]
        exact ⟨entry.2.2, mem, by simpa [isLive] using live⟩
      · contradiction
    · contradiction
  · rintro ⟨dies, mem, live⟩
    have found := (find?_eq_some_iff nodup).mpr ⟨mem, rfl⟩
    simp [get, found, isLive, live]

omit [LawfulBEq κ] in
theorem remove_eq_get (cache : ExpiringCache κ ν) (now : Nat) (key : κ) :
    (cache.remove now key).1 = (cache.get now key).1 := by
  unfold remove get
  split
  · split <;> rfl
  · rfl

theorem ne_of_mem_remove {key : κ} {entry : κ × ν × Nat}
    (mem : entry ∈ (cache.remove now key).2.entries) : entry.1 ≠ key := by
  unfold remove at mem
  split at mem
  · exact (mem_without.mp mem).2
  · next missing => exact find?_eq_none_iff.mp missing entry mem

/-- What is stored after a call was put in by it, or was there and is not under the key it writes. -/
theorem mem_next {call : Call κ ν} {entry : κ × ν × Nat}
    (ends : call.ends cache.clockEnd cache.lifetime now) (mem : entry ∈ (cache.next now call).entries) :
    call = .insert entry.1 entry.2.1 ∧ entry.2.2 = now + cache.lifetime ∨
      call.written? ≠ some entry.1 ∧ entry ∈ cache.entries := by
  cases call with
  | insert key value =>
    rw [next_insert ends] at mem
    obtain rfl | ⟨old, other⟩ := mem_put.mp mem
    · exact Or.inl ⟨rfl, rfl⟩
    · exact Or.inr ⟨fun same => other (Option.some.inj same).symm, old⟩
  | get key => exact Or.inr ⟨nofun, (get_sublist now key).subset mem⟩
  | remove key =>
    exact Or.inr ⟨fun same => ne_of_mem_remove mem (Option.some.inj same).symm,
      (remove_sublist now key).subset mem⟩
  | purge => exact Or.inr ⟨nofun, List.mem_of_mem_filter mem⟩
  | size => exact Or.inr ⟨nofun, mem⟩

/-- What is live stays, but for what is under the key that a call writes. -/
theorem mem_next_of_live {call : Call κ ν} {entry : κ × ν × Nat}
    (ends : call.ends cache.clockEnd cache.lifetime now) (nodup : cache.keys.Nodup)
    (mem : entry ∈ cache.entries) (other : call.written? ≠ some entry.1) (live : now < entry.2.2) :
    entry ∈ (cache.next now call).entries := by
  cases call with
  | insert key value =>
    rw [next_insert ends]
    exact mem_put.mpr (Or.inr ⟨mem, fun same => other (by rw [same]; rfl)⟩)
  | get key =>
    simp only [next, get]
    split
    · next found found_eq =>
      split
      · exact mem
      · next dead =>
        -- What is dropped is dead, so it is not under the key of the entry.
        refine mem_without.mpr ⟨mem, fun same => dead ?_⟩
        rw [(find?_eq_some_iff nodup).mpr ⟨mem, same⟩] at found_eq
        simpa [isLive, ← Option.some.inj found_eq] using live
    · exact mem
  | remove key =>
    simp only [next, remove]
    split
    · exact mem_without.mpr ⟨mem, fun same => other (by rw [same]; rfl)⟩
    · exact mem
  | purge => exact List.mem_filter.mpr ⟨mem, by simpa [isLive] using live⟩
  | size => exact mem

theorem keys_next_nodup {call : Call κ ν} (ends : call.ends cache.clockEnd cache.lifetime now)
    (nodup : cache.keys.Nodup) :
    (cache.next now call).keys.Nodup := by
  cases call with
  | insert key value =>
    rw [next_insert ends]
    refine List.nodup_cons.mpr ⟨fun mem => ?_, nodup.sublist ((cache.without_sublist key).map _)⟩
    obtain ⟨entry, stored, same⟩ := List.mem_map.mp mem
    exact (mem_without.mp stored).2 same
  | get key => exact nodup.sublist ((get_sublist now key).map _)
  | remove key => exact nodup.sublist ((remove_sublist now key).map _)
  | purge => exact nodup.sublist (List.filter_sublist.map _)
  | size => exact nodup

/-- What a cache is by the calls that led to it and did not break off. Nothing is stored but what was
last put in under its key, and that is stored as long as no call has come after its time. -/
structure Faithful (clockEnd lifetime : Nat) (calls : Calls κ ν) (cache : ExpiringCache κ ν) :
    Prop where
  clockEnd_eq : cache.clockEnd = clockEnd
  lifetime_eq : cache.lifetime = lifetime
  nodup : cache.keys.Nodup
  put : ∀ entry ∈ cache.entries, ∃ time,
    calls.LastPut entry.1 time entry.2.1 ∧ entry.2.2 = time + lifetime
  kept : ∀ key time value, calls.LastPut key time value →
    (∀ call ∈ calls, call.1 < time + lifetime) → (key, value, time + lifetime) ∈ cache.entries

theorem Faithful.next {calls : Calls κ ν} (faithful : Faithful clockEnd lifetime calls cache)
    {call : Call κ ν} (ends : call.ends clockEnd lifetime now) :
    Faithful clockEnd lifetime (calls ++ [(now, call)]) (cache.next now call) := by
  obtain ⟨rfl, rfl, nodup, put, kept⟩ := faithful
  obtain ⟨clock, time⟩ := cache.next_keeps now call
  refine ⟨clock, time, keys_next_nodup ends nodup, fun entry mem => ?_,
    fun key time value last live => ?_⟩
  · obtain ⟨rfl, dies⟩ | ⟨other, old⟩ := mem_next ends mem
    · exact ⟨now, Calls.lastPut_concat.mpr (Or.inl ⟨rfl, rfl⟩), dies⟩
    · obtain ⟨time, last, dies⟩ := put entry old
      exact ⟨time, Calls.lastPut_concat.mpr (Or.inr ⟨other, last⟩), dies⟩
  · obtain ⟨rfl, rfl⟩ | ⟨other, last⟩ := Calls.lastPut_concat.mp last
    · rw [next_insert ends]
      exact List.mem_cons_self
    · have before : ∀ call ∈ calls, call.1 < time + cache.lifetime :=
        fun call mem => live call (List.mem_append_left _ mem)
      exact mem_next_of_live ends nodup (kept key time value last before) other
        (live (now, call) (by simp))

theorem faithful_after (clockEnd lifetime : Nat) (calls : Calls κ ν) :
    Faithful clockEnd lifetime (calls.ended clockEnd lifetime) (after clockEnd lifetime calls) := by
  induction calls using List.reverseRecOn with
  | nil =>
    refine ⟨rfl, rfl, List.nodup_nil, nofun, fun key time value put => ?_⟩
    obtain ⟨before, later, split, -⟩ := put
    simp [Calls.ended] at split
  | append_singleton calls call ih =>
    obtain ⟨now, call⟩ := call
    rw [after_concat, Calls.ended_append]
    by_cases ends : call.ends clockEnd lifetime now = true
    · rw [Calls.ended_cons_of_ends ends]
      exact ih.next ends
    · rw [Calls.ended_cons_of_broken_off ends, next_of_broken_off]
      · simpa [Calls.ended] using ih
      · rwa [ih.clockEnd_eq, ih.lifetime_eq]

def answer? (clockEnd lifetime : Nat) (calls : Calls κ ν) (now : Nat) (key : κ) : Option ν :=
  ((after clockEnd lifetime calls).get now key).1

theorem answer?_eq_some_iff {calls : Calls κ ν} (past : calls.Until now) {key : κ} {value : ν} :
    answer? clockEnd lifetime calls now key = some value ↔
      ∃ time, (calls.ended clockEnd lifetime).LastPut key time value ∧ now < time + lifetime := by
  have faithful := faithful_after clockEnd lifetime calls
  rw [answer?, get_eq_some_iff faithful.nodup]
  constructor
  · rintro ⟨dies, mem, live⟩
    obtain ⟨time, put, rfl⟩ := faithful.put _ mem
    exact ⟨time, put, live⟩
  · rintro ⟨time, put, live⟩
    exact ⟨time + lifetime,
      faithful.kept key time value put fun call mem =>
        Nat.lt_of_le_of_lt (past.ended clockEnd lifetime call mem) live, live⟩

theorem answer?_eq_of_lastPut {calls calls' : Calls κ ν} {key : κ} (past : calls.Until now)
    (past' : calls'.Until now)
    (same : ∀ time value, (calls.ended clockEnd lifetime).LastPut key time value ↔
      (calls'.ended clockEnd lifetime).LastPut key time value) :
    answer? clockEnd lifetime calls now key = answer? clockEnd lifetime calls' now key := by
  refine Option.ext fun value => ?_
  rw [answer?_eq_some_iff past, answer?_eq_some_iff past']
  exact exists_congr fun time => and_congr_left' (same time value)

theorem answer?_stays_none {calls rest : Calls κ ν} {key : κ} {later : Nat}
    (past : calls.Until now) (le : now ≤ later) (past' : Calls.Until rest later)
    (none : Calls.PutsNone (rest.ended clockEnd lifetime) key)
    (gone : answer? clockEnd lifetime calls now key = .none) :
    answer? clockEnd lifetime (calls ++ rest) later key = .none := by
  refine Option.eq_none_iff_forall_ne_some.mpr fun value given => ?_
  obtain ⟨time, put, live⟩ := (answer?_eq_some_iff (past.append le past')).mp given
  rw [Calls.ended_append] at put
  have before := (answer?_eq_some_iff past).mpr ⟨time, put.of_append none, Nat.lt_of_le_of_lt le live⟩
  rw [gone] at before
  contradiction

theorem answer?_insert {calls rest : Calls κ ν} {key : κ} {value : ν} {later : Nat}
    (past : calls.Until now) (le : now ≤ later) (past' : Calls.Until rest later)
    (ends : now + lifetime ≤ clockEnd) (spare : Calls.Spare (rest.ended clockEnd lifetime) key) :
    answer? clockEnd lifetime (calls ++ (now, .insert key value) :: rest) later key =
      if later < now + lifetime then some value else none := by
  have put : (Call.insert key value).ends clockEnd lifetime now := decide_eq_true ends
  refine Option.ext fun other => ?_
  rw [answer?_eq_some_iff (past.append le (.cons le past')), Calls.ended_append,
    Calls.ended_cons_of_ends put]
  simp only [Calls.lastPut_insert spare]
  by_cases live : later < now + lifetime
  · simp [live, eq_comm]
  · simp [live]

theorem answer?_remove {calls rest : Calls κ ν} {key : κ} {later : Nat}
    (past : calls.Until now) (le : now ≤ later) (past' : Calls.Until rest later)
    (none : Calls.PutsNone (rest.ended clockEnd lifetime) key) :
    answer? clockEnd lifetime (calls ++ (now, .remove key) :: rest) later key = .none := by
  have past_remove : Calls.Until (calls ++ [(now, .remove key)]) now :=
    past.append (Nat.le_refl now) (.cons (Nat.le_refl now) fun _ mem => absurd mem List.not_mem_nil)
  rw [List.append_cons]
  refine answer?_stays_none past_remove le past' none ?_
  refine Option.eq_none_iff_forall_ne_some.mpr fun value given => ?_
  rw [answer?_eq_some_iff past_remove, Calls.ended_append, Calls.ended_cons_of_ends rfl] at given
  simp [Calls.ended, Calls.lastPut_concat, Call.written?] at given

theorem answer?_skip {calls rest : Calls κ ν} {call : Call κ ν} {key : κ} {later : Nat}
    (past : calls.Until now) (le : now ≤ later) (past' : Calls.Until rest later)
    (spare : call.ends clockEnd lifetime now → call.written? ≠ some key) :
    answer? clockEnd lifetime (calls ++ (now, call) :: rest) later key =
      answer? clockEnd lifetime (calls ++ rest) later key := by
  refine answer?_eq_of_lastPut (past.append le (.cons le past')) (past.append le past')
    fun _ _ => ?_
  rw [Calls.ended_append, Calls.ended_append]
  by_cases ends : call.ends clockEnd lifetime now = true
  · rw [Calls.ended_cons_of_ends ends]
    exact Calls.lastPut_skip (spare ends)
  · rw [Calls.ended_cons_of_broken_off ends]

def deadKeys (cache : ExpiringCache κ ν) (now : Nat) : List κ :=
  (cache.entries.filter fun entry => !isLive now entry).map (·.1)

omit [LawfulBEq κ] [BEq κ] in
theorem purge_count (cache : ExpiringCache κ ν) (now : Nat) :
    (cache.purge now).1 = (cache.deadKeys now).length := by
  have both : cache.entries.length = _ := List.length_eq_length_filter_add (isLive now)
  simp only [purge, deadKeys, List.length_map]
  omega

theorem mem_deadKeys {calls : Calls κ ν} {key : κ} :
    key ∈ (after clockEnd lifetime calls).deadKeys now ↔
      key ∈ (after clockEnd lifetime calls).keys ∧ ∃ time value,
        (calls.ended clockEnd lifetime).LastPut key time value ∧ time + lifetime ≤ now := by
  have faithful := faithful_after clockEnd lifetime calls
  constructor
  · intro mem
    obtain ⟨entry, dead, rfl⟩ := List.mem_map.mp mem
    obtain ⟨stored, dead⟩ := List.mem_filter.mp dead
    obtain ⟨time, put, dies⟩ := faithful.put entry stored
    refine ⟨List.mem_map_of_mem stored, time, entry.2.1, put, ?_⟩
    simpa [isLive, dies] using dead
  · rintro ⟨mem, time, value, put, dead⟩
    obtain ⟨entry, stored, rfl⟩ := List.mem_map.mp mem
    obtain ⟨time', put', dies⟩ := faithful.put entry stored
    obtain ⟨rfl, -⟩ := put.unique put'
    refine List.mem_map_of_mem (List.mem_filter.mpr ⟨stored, ?_⟩)
    simpa [isLive, dies] using dead

theorem after_skip {calls rest : Calls κ ν} {call : Call κ ν}
    (breaks : ¬ call.ends clockEnd lifetime now) :
    after clockEnd lifetime (calls ++ (now, call) :: rest) =
      after clockEnd lifetime (calls ++ rest) := by
  have faithful := faithful_after clockEnd lifetime calls
  have same : (after clockEnd lifetime calls).next now call = after clockEnd lifetime calls :=
    next_of_broken_off (by rwa [faithful.clockEnd_eq, faithful.lifetime_eq])
  rw [after, List.foldl_append, List.foldl_cons]
  rw [after] at same
  rw [same, after, List.foldl_append]

/-- The answers of a cache are those of the calls that led to it, made at times that do not go back.

A value is put in unless the clock ends before the lifetime does; a call that breaks off over that
changes nothing, so that only the calls count that have come to their end. A look-up gives what was last
put in under the key if that is less than the lifetime ago, and so does a removal, which takes the key
out. A value that is put in lives from then on. What is not given stays so until something is put in
under its key, and no call that does not write a key, such as a look-up or a purge, changes what is given
for it later. A purge drops what was put in a lifetime ago or earlier, counts it and leaves what is live.
Each key is stored once. -/
theorem follows_history (clockEnd lifetime : Nat) (calls : Calls κ ν) (now : Nat)
    (past : calls.Until now) :
    let cache := after clockEnd lifetime calls
    let ended := Calls.ended clockEnd lifetime
    (∀ key value, ((cache.insert? now key value).isSome ↔ now + lifetime ≤ clockEnd) ∧
      ∀ rest, ¬ now + lifetime ≤ clockEnd →
        after clockEnd lifetime (calls ++ (now, .insert key value) :: rest) =
          after clockEnd lifetime (calls ++ rest)) ∧
    (∀ key value, (cache.get now key).1 = some value ↔
      ∃ time, (ended calls).LastPut key time value ∧ now < time + lifetime) ∧
    (∀ key, (cache.remove now key).1 = (cache.get now key).1 ∧
      key ∉ (cache.remove now key).2.keys) ∧
    (∀ key rest later, now ≤ later → Calls.Until rest later →
      (Calls.PutsNone (ended rest) key →
        ((after clockEnd lifetime (calls ++ (now, .remove key) :: rest)).get later key).1 = none ∧
        ((cache.get now key).1 = none →
          ((after clockEnd lifetime (calls ++ rest)).get later key).1 = none)) ∧
      (∀ value, now + lifetime ≤ clockEnd → Calls.Spare (ended rest) key →
        ((after clockEnd lifetime (calls ++ (now, .insert key value) :: rest)).get later key).1 =
          if later < now + lifetime then some value else none) ∧
      (∀ call : Call κ ν, call.written? ≠ some key →
        ((after clockEnd lifetime (calls ++ (now, call) :: rest)).get later key).1 =
          ((after clockEnd lifetime (calls ++ rest)).get later key).1 ∧
        ((after clockEnd lifetime (calls ++ (now, call) :: rest)).remove later key).1 =
          ((after clockEnd lifetime (calls ++ rest)).remove later key).1)) ∧
    ((cache.purge now).1 = (cache.deadKeys now).length ∧ (cache.deadKeys now).Nodup ∧
      (∀ key, key ∈ cache.deadKeys now ↔ key ∈ cache.keys ∧
        ∃ time value, (ended calls).LastPut key time value ∧ time + lifetime ≤ now) ∧
      ∀ entry ∈ (cache.purge now).2.entries, isLive now entry) ∧
    cache.keys.Nodup ∧ cache.size = cache.keys.length := by
  have faithful := faithful_after clockEnd lifetime calls
  refine ⟨fun key value => ⟨?_, fun rest late => after_skip fun ends => late (of_decide_eq_true ends)⟩,
    fun key value => answer?_eq_some_iff past, fun key => ⟨remove_eq_get _ now key, ?_⟩,
    fun key rest later le past' => ⟨fun none => ⟨answer?_remove past le past' none,
      answer?_stays_none past le past' none⟩,
      fun value ends spare => answer?_insert past le past' ends spare, fun call spare => ?_⟩,
    ⟨purge_count _ now, ?_, fun key => mem_deadKeys, ?_⟩, faithful.nodup, (length_keys _).symm⟩
  · rw [insert?, faithful.clockEnd_eq, faithful.lifetime_eq]
    split <;> simp_all
  · intro mem
    obtain ⟨entry, stored, same⟩ := List.mem_map.mp mem
    exact ne_of_mem_remove stored same
  · rw [remove_eq_get, remove_eq_get, and_self]
    exact answer?_skip past le past' fun _ => spare
  · exact faithful.nodup.sublist (List.filter_sublist.map _)
  · exact fun entry mem => (List.mem_filter.mp mem).2

/-- A value lives up to a lifetime after it was put in, but not at the end of it. One that would live
beyond the end of the clock is not put in, and the old one is given on. -/
theorem follows_history_to_deadline :
    let calls := [(2, Call.insert "key" 1), (4, .purge), (5, .insert "key" 2)]
    (((after 9 5 calls).insert? 5 "key" 3).isSome = false) ∧
      ((after 9 5 calls).get 6 "key").1 = some 1 ∧ ((after 9 5 calls).get 7 "key").1 = none := by
  intro calls
  have past (now : Nat) (late : 5 ≤ now) : Calls.Until calls now := by
    simp [calls, Calls.Until, late, Nat.le_trans _ late]
  have put : Calls.LastPut (Calls.ended 9 5 calls) "key" 2 1 :=
    ⟨[], [(4, .purge)], rfl, by simp [Calls.Spare, Call.written?]⟩
  refine ⟨?_, ((follows_history 9 5 _ 6 (past 6 (by decide))).2.1 "key" 1).mpr ⟨2, put, by decide⟩, ?_⟩
  · have ends := ((follows_history 9 5 _ 5 (past 5 (by decide))).1 "key" 3).1
    exact Bool.eq_false_iff.mpr fun some => absurd (ends.mp some) (by decide)
  · refine Option.eq_none_iff_forall_ne_some.mpr fun value given => ?_
    obtain ⟨time, put', live⟩ :=
      ((follows_history 9 5 _ 7 (past 7 (by decide))).2.1 "key" value).mp given
    obtain ⟨rfl, -⟩ := put.unique put'
    contradiction

end ExpiringCache

end Courier
