import Courier.Proofs.Sandbox.Sources
import Courier.Proofs.Transfer.Completion
import Courier.Proofs.Transfer.Storing

/-! Transfers of a file from a file system and from memory. A transfer fetches only while its download comes
through, so that a source which has the file at the start has it whenever it is asked, unless it is the file
that is downloaded into. So the source makes no difference to a transfer. -/
namespace Courier

open Answering (follows_append)
open FileTree (Beside)
open Sandbox (Source)

namespace Transfer

/-- Whether a question is for a remote object. -/
def fetches : Request → Bool
  | .fetchChunk .. | .fetchWhole .. => true
  | _ => false

/-- Exchanges of a run whose download into a file comes through so far. -/
def Downloads (location path : String) : Exchange → Prop
  | ⟨.canceled, _⟩ | ⟨.userRules _, _⟩ | ⟨.messageText .., _⟩ | ⟨.progress .., _⟩ => True
  | ⟨.fetchChunk place .., _⟩ | ⟨.fetchWhole place _, _⟩ => place = location
  | ⟨.makeDirectories _, reply⟩ => reply = .ok ()
  | ⟨.createFile other, reply⟩ | ⟨.appendFile other _, reply⟩ => other = path ∧ reply = .ok ()
  | _ => False

/-- Whether a run only fetches one object, and only while its download comes through. -/
def FetchesFirst (location path : String) (t : List Exchange) : Prop :=
  ∃ front back, t = front ++ back ∧ (∀ x ∈ front, Downloads location path x) ∧
    ∀ x ∈ back, fetches x.1 = false

section Fetching

variable {location path : String} {t t₁ t₂ : List Exchange}

theorem fetchesFirst_of_none (none : ∀ x ∈ t, fetches x.1 = false) : FetchesFirst location path t :=
  ⟨[], t, rfl, List.forall_mem_nil _, none⟩

theorem fetchesFirst_of_downloads (downloads : ∀ x ∈ t, Downloads location path x) :
    FetchesFirst location path t :=
  ⟨t, [], (List.append_nil t).symm, downloads, List.forall_mem_nil _⟩

theorem FetchesFirst.after (rest : FetchesFirst location path t₂)
    (downloads : ∀ x ∈ t₁, Downloads location path x) : FetchesFirst location path (t₁ ++ t₂) := by
  obtain ⟨front, back, rfl, more, none⟩ := rest
  refine ⟨t₁ ++ front, back, (List.append_assoc ..).symm, fun x hx => ?_, none⟩
  exact (List.mem_append.mp hx).elim (downloads x) (more x)

theorem FetchesFirst.before (first : FetchesFirst location path t₁)
    (none : ∀ x ∈ t₂, fetches x.1 = false) : FetchesFirst location path (t₁ ++ t₂) := by
  obtain ⟨front, back, rfl, downloads, quiet⟩ := first
  refine ⟨front, back ++ t₂, List.append_assoc .., downloads, fun x hx => ?_⟩
  exact (List.mem_append.mp hx).elim (quiet x) (none x)

end Fetching

end Transfer

open Transfer (Downloads FetchesFirst fetches fetchesFirst_of_downloads fetchesFirst_of_none)

namespace Reader

variable {r r' : Reader} {path : String} {t : List Exchange}

theorem OneRequest.downloads (one : r.OneRequest t) : ∀ x ∈ t, Downloads r.location path x := by
  obtain ⟨⟨offset, asked⟩, -⟩ := one
  rintro ⟨q, reply⟩ hx
  obtain rfl | rfl := asked _ hx
  · trivial
  · rfl

theorem read_downloads {room : Nat} {result : Except TransferError Bytes}
    (begun : r.bytesRead ≤ r.length) (run : (r.read room).Trace t (result, r')) :
    ∀ x ∈ t, Downloads r.location path x := by
  obtain ⟨t₁, t₂, told, rfl, first, second, tells⟩ := (read_safe begun run).requests
  simp only [List.mem_append]
  rintro ⟨q, reply⟩ ((hx | hx) | hx)
  · exact first.downloads _ hx
  · exact second.downloads _ hx
  · obtain ⟨summary, read, total, rfl⟩ := tells _ hx
    trivial

/-- Where a block cannot be written nothing is read any more. -/
theorem Copies.fetchesFirst {s s' : Unit} {reads : Nat} {blocks : List Bytes}
    {outcome : Except TransferError Unit}
    (copies : Copies (Transfer.fileSink path) r s reads blocks t outcome r' s')
    (begun : r.bytesRead ≤ r.length) : FetchesFirst r.location path t := by
  induction copies with
  | unread reading => exact fetchesFirst_of_downloads (read_downloads begun reading)
  | flushed reading empty flushing | unflushed reading empty flushing =>
    obtain ⟨rfl, -⟩ := Job.trace_done.mp flushing
    rw [List.append_nil]
    exact fetchesFirst_of_downloads (read_downloads begun reading)
  | unwritten reading filled writing =>
    rw [Transfer.fileSink_write_trace writing]
    exact (fetchesFirst_of_none (by simp [fetches])).after (read_downloads begun reading)
  | block reading filled writing _ ih =>
    obtain rfl := Transfer.fileSink_write_trace writing
    obtain ⟨-, begun₁, -⟩ := read_fewer begun reading
    have same := (read_safe begun reading).continues.location
    have rest := ih begun₁
    rw [same] at rest
    refine (rest.after fun x hx => ?_).after (read_downloads begun reading)
    rw [List.mem_singleton.mp hx]
    exact ⟨rfl, rfl⟩

end Reader

namespace Transfer

variable {engine : Engine} {task task' : Task} {file : RemoteFile} {chat post : Int} {stage : Stage}
  {medium : Medium} {path : String} {t : List Exchange} {env : Setting} {w w' : Depot}

theorem fetchFile_fetchesFirst {result : Except TransferError Unit}
    (run : (fetchFile engine task file path).Trace t result) : FetchesFirst file.location path t := by
  unfold fetchFile at run
  split at run
  · simp only [downloadInline, Job.bind_eq, Job.trace_bind] at run
    obtain ⟨fetched, t₁, t₂, rfl, fetching, rest⟩ := run
    have asks : (fetchWithRetry engine.policy (Job.request (.fetchWhole file.location chunkSize))).Asks
        fun q => q = .canceled ∨ q = .fetchWhole file.location chunkSize :=
      fetchWithRetry_asks engine.policy (Or.inl rfl) ⟨Or.inr rfl, fun _ => Job.asks_done ..⟩
    refine FetchesFirst.after (fetchesFirst_of_none ?_) ?_
    · cases fetched with
      | error e =>
        rw [(Job.trace_done.mp rest).1]
        exact List.forall_mem_nil _
      | ok bytes =>
        simp only [Job.request, Job.ask_bind, Job.done_bind, Job.pure_eq, Job.trace_ask] at rest
        obtain ⟨reply, t₂, rfl, rest⟩ := rest
        cases reply with
        | error e =>
          rw [(Job.trace_done.mp rest).1]
          simp [fetches]
        | ok =>
          simp only [Job.trace_ask, Job.trace_done] at rest
          obtain ⟨_, _, rfl, rfl, -⟩ := rest
          simp [fetches]
    · rintro ⟨q, reply⟩ hx
      obtain rfl | rfl := asks.forall_mem fetching _ hx
      · trivial
      · rfl
  · rcases download_cases run with ⟨e, rfl, -⟩ | ⟨_, _, t₁, _, rfl, copies⟩
    · exact fetchesFirst_of_none (by simp [fetches])
    · have first : FetchesFirst file.location path t₁ := copies.fetchesFirst (Nat.zero_le _)
      rw [← List.singleton_append]
      refine first.after fun x hx => ?_
      rw [List.mem_singleton.mp hx]
      exact ⟨rfl, rfl⟩

theorem carry_fetchesFirst {result : Except TransferError Unit}
    (run : (carry engine task file medium path).Trace t (task', result)) :
    FetchesFirst file.location path t := by
  simp only [carry, Job.bind_eq, Job.trace_bind] at run
  obtain ⟨downloaded, t₁, t₂, rfl, downloading, rest⟩ := run
  refine (fetchFile_fetchesFirst downloading).before ?_
  cases downloaded with
  | error e =>
    rw [(Job.trace_done.mp rest).1]
    exact List.forall_mem_nil _
  | ok =>
    exact (persist_asks (P := (fetches · = false)) engine task rfl (fun _ => rfl)
      fun _ => rfl).forall_mem rest

/-- A transfer fetches only its own file, and no more once anything has failed on its cache file. -/
theorem run_fetchesFirst (message : task.origin = .message file chat post)
    (ran : (run engine task).Trace t (task', stage)) :
    FetchesFirst file.location (cacheFile engine task) t := by
  cases runs_of_trace ran with
  | canceled => exact fetchesFirst_of_none (by simp [fetches])
  | unrouted resolving =>
    exact fetchesFirst_of_none
      (forall_mem_of_resolving rfl (fun _ _ => rfl) (fun _ _ _ => rfl) resolving)
  | @working t₁ _ route _ _ resolving working =>
    have origin := show (routed (prepared task) route).origin = _ from (prepared_spec message).1
    have looks : ∀ x ∈ ⟨.canceled, false⟩ :: t₁, Downloads file.location (cacheFile engine task) x :=
      forall_mem_of_resolving trivial (fun _ _ => trivial) (fun _ _ _ => trivial) resolving
    rw [← List.cons_append]
    refine FetchesFirst.after ?_ looks
    rcases works_of_message origin working with ⟨e, rfl, -, -⟩ | ⟨t₂, result, rfl, -, carrying⟩
    · exact fetchesFirst_of_none (by simp [fetches])
    · rw [cachePath_routed message route] at carrying ⊢
      rw [← List.singleton_append]
      refine ((carry_fetchesFirst carrying).before (by simp [fetches])).after fun x hx => ?_
      rw [List.mem_singleton.mp hx]
      rfl

end Transfer

/-- A depot, and a source of remote objects that has its files. -/
structure Supplied where
  depot : Depot
  source : Source

/-- How a fetch can come out: it is given up or fails on its way, or it is answered by the source. -/
def Fetched (served : Except CallError Bytes × Source) (source : Source)
    (reply : Request.Raced Bytes) (source' : Source) : Prop :=
  (∀ bytes, reply ≠ some (.ok bytes)) ∧ source' = source ∨ reply = some served.1 ∧ source' = served.2

/-- How a question can be answered where fetches go to a source. -/
def supplies (env : Setting) (w : Supplied) : (q : Request) → q.Reply → Supplied → Prop
  | .fetchChunk location offset limit, reply, w' =>
    w'.depot = w.depot ∧
      Fetched (w.source.chunk w.depot.files location offset limit) w.source reply w'.source
  | .fetchWhole location limit, reply, w' =>
    w'.depot = w.depot ∧ Fetched (w.source.whole w.depot.files location limit) w.source reply w'.source
  | q, reply, w' => w'.source = w.source ∧ env.delivers w.depot q reply w'.depot

theorem exists_supply (env : Setting) (w : Supplied) (q : Request) :
    ∃ reply w', supplies env w q reply w' := by
  obtain ⟨reply, depot, h⟩ := env.exists_delivery w.depot q
  cases q with
  | fetchChunk | fetchWhole => exact ⟨none, w, rfl, Or.inl ⟨nofun, rfl⟩⟩
  | _ => exact ⟨reply, ⟨depot, w.source⟩, rfl, h⟩

/-- Whether a source has the object of a setting at a location, and in no file where work is done at a path. -/
structure Stocked (env : Setting) (location path : String) (source : Source) (files : FileTree) : Prop where
  has : source.Has files location (env.objects location)
  apart : ∀ root, source = .disk root →
    files.standing (Disk.sourcePath root location) ≠ files.standing path

namespace Stocked

variable {env : Setting} {w w' : Depot} {source source' : Source} {location path : String}
  {t : List Exchange} {q : Request} {reply : q.Reply}

theorem of_objects {o : Sandbox.Objects} {files : FileTree}
    (has : (Source.objects o).Has files location (env.objects location)) :
    Stocked env location path (.objects o) files :=
  ⟨has, nofun⟩

theorem beside {other : String} (downloads : Downloads location path ⟨q, reply⟩)
    (step : env.delivers w q reply w') (apart : w.files.standing other ≠ w.files.standing path) :
    Beside other w.files w'.files := by
  have quiet (same : w' = w) : Beside other w.files w'.files := same ▸ .refl other _
  cases q with
  | canceled | progress => exact quiet step
  | userRules | messageText => exact quiet step.2
  | fetchChunk | fetchWhole => exact quiet step.1
  | makeDirectories =>
    exact (Disk.spares_makeDirectories (step.2 downloads) path).beside apart
  | createFile =>
    obtain ⟨rfl, through⟩ := downloads
    exact (FileTree.spares_write (step.2 through)).beside apart
  | appendFile =>
    obtain ⟨rfl, through⟩ := downloads
    rw [step.2 through]
    exact (FileTree.spares_append ..).beside apart
  | _ => exact downloads.elim

theorem next (stocked : Stocked env location path source w.files)
    (downloads : Downloads location path ⟨q, reply⟩) (step : env.delivers w q reply w') :
    Stocked env location path source w'.files := by
  obtain ⟨has, apart⟩ := stocked
  cases source with
  | disk root =>
    have beside := beside downloads step (apart root rfl)
    refine ⟨beside.read has, fun other same => ?_⟩
    rw [FileTree.standing_congr beside.home, FileTree.standing_congr beside.home]
    exact apart other same
  | objects o => exact of_objects has

theorem fetched {served : Except CallError Bytes × Source} {bytes : Bytes} {reply : Request.Raced Bytes}
    (gives : served.1 = .ok bytes) (kept : Stocked env location path served.2 w.files)
    (stocked : Stocked env location path source w.files) (out : Fetched served source reply source') :
    (∀ given, reply = some (.ok given) → given = bytes) ∧ Stocked env location path source' w.files := by
  obtain ⟨failed, rfl⟩ | ⟨rfl, rfl⟩ := out
  · exact ⟨fun given same => absurd same (failed given), stocked⟩
  · rw [gives]
    exact ⟨fun given same => (Except.ok.inj (Option.some.inj same)).symm, kept⟩

theorem chunk (stocked : Stocked env location path source w.files)
    (short : (env.objects location).size < wordLimit) (offset limit : Nat) :
    (source.chunk w.files location offset limit).1 =
        .ok ((env.objects location).extract offset (offset + limit)) ∧
      Stocked env location path (source.chunk w.files location offset limit).2 w.files := by
  obtain ⟨given, kept⟩ := stocked.has.chunk short offset limit
  refine ⟨given, kept, fun root same => stocked.apart root ?_⟩
  cases source with
  | disk => exact same
  | objects => contradiction

theorem whole (stocked : Stocked env location path source w.files) (limit : Nat) :
    (source.whole w.files location limit).1 = .ok ((env.objects location).extract 0 limit) ∧
      Stocked env location path (source.whole w.files location limit).2 w.files := by
  obtain ⟨given, kept⟩ := stocked.has.whole limit
  refine ⟨given, kept, fun root same => stocked.apart root ?_⟩
  cases source with
  | disk => exact same
  | objects => contradiction

/-- A stocked source answers as the setting may, and is stocked as before. -/
theorem delivers_of_supplies (stocked : Stocked env location path source w.files)
    (short : (env.objects location).size < wordLimit) (downloads : Downloads location path ⟨q, reply⟩)
    (step : supplies env ⟨w, source⟩ q reply ⟨w', source'⟩) :
    env.delivers w q reply w' ∧ Stocked env location path source' w'.files := by
  cases q with
  | fetchChunk place offset limit =>
    obtain rfl : place = location := downloads
    obtain ⟨rfl, out⟩ := step
    obtain ⟨given, kept⟩ := stocked.chunk short offset limit
    obtain ⟨same, kept⟩ := fetched given kept stocked out
    exact ⟨⟨rfl, same⟩, kept⟩
  | fetchWhole place limit =>
    obtain rfl : place = location := downloads
    obtain ⟨rfl, out⟩ := step
    obtain ⟨given, kept⟩ := stocked.whole limit
    obtain ⟨same, kept⟩ := fetched given kept stocked out
    exact ⟨⟨rfl, same⟩, kept⟩
  | _ =>
    obtain ⟨rfl, step⟩ := step
    exact ⟨step, stocked.next downloads step⟩

/-- Whatever the setting may answer, a stocked source can have answered. -/
theorem exists_supplied (stocked : Stocked env location path source w.files)
    (short : (env.objects location).size < wordLimit) (downloads : Downloads location path ⟨q, reply⟩)
    (step : env.delivers w q reply w') : ∃ source', supplies env ⟨w, source⟩ q reply ⟨w', source'⟩ := by
  have out {served : Except CallError Bytes × Source} {bytes : Bytes} {reply : Request.Raced Bytes}
      (gives : served.1 = .ok bytes) (same : ∀ given, reply = some (.ok given) → given = bytes) :
      ∃ source', Fetched served source reply source' := by
    rcases reply with _ | e | given
    · exact ⟨source, Or.inl ⟨nofun, rfl⟩⟩
    · exact ⟨source, Or.inl ⟨nofun, rfl⟩⟩
    · rw [same given rfl]
      exact ⟨served.2, Or.inr ⟨by rw [gives], rfl⟩⟩
  cases q with
  | fetchChunk place offset limit =>
    obtain rfl : place = location := downloads
    obtain ⟨rfl, same⟩ := step
    obtain ⟨source', fetched⟩ := out (stocked.chunk short offset limit).1 same
    exact ⟨source', rfl, fetched⟩
  | fetchWhole place limit =>
    obtain rfl : place = location := downloads
    obtain ⟨rfl, same⟩ := step
    obtain ⟨source', fetched⟩ := out (stocked.whole limit).1 same
    exact ⟨source', rfl, fetched⟩
  | _ => exact ⟨source, rfl, step⟩

theorem supplies_iff_of_none (none : fetches q = false) :
    supplies env ⟨w, source⟩ q reply ⟨w', source'⟩ ↔ source' = source ∧ env.delivers w q reply w' := by
  cases q with
  | fetchChunk | fetchWhole => contradiction
  | _ => exact Iff.rfl

theorem follows_iff_of_none (none : ∀ x ∈ t, fetches x.1 = false) :
    Answering.Follows (supplies env) ⟨w, source⟩ t ⟨w', source'⟩ ↔
      source' = source ∧ Answering.Follows env.delivers w t w' := by
  induction t generalizing w with
  | nil => simp [Answering.Follows, and_comm]
  | cons x t ih =>
    have others := fun y hy => none y (List.mem_cons_of_mem x hy)
    have silent := none x List.mem_cons_self
    constructor
    · rintro ⟨⟨m, _⟩, step, follows⟩
      obtain ⟨rfl, first⟩ := (supplies_iff_of_none silent).mp step
      obtain ⟨rfl, rest⟩ := (ih others).mp follows
      exact ⟨rfl, m, first, rest⟩
    · rintro ⟨rfl, m, step, follows⟩
      exact ⟨⟨m, _⟩, (supplies_iff_of_none silent).mpr ⟨rfl, step⟩, (ih others).mpr ⟨rfl, follows⟩⟩

theorem follows_iff_of_downloads (stocked : Stocked env location path source w.files)
    (short : (env.objects location).size < wordLimit) (downloads : ∀ x ∈ t, Downloads location path x) :
    (∃ source', Answering.Follows (supplies env) ⟨w, source⟩ t ⟨w', source'⟩) ↔
      Answering.Follows env.delivers w t w' := by
  -- Each exchange leaves the source stocked, so that the next one can be answered alike.
  induction t generalizing w source with
  | nil =>
    constructor
    · rintro ⟨source', same⟩
      exact (Supplied.mk.inj same).1
    · rintro rfl
      exact ⟨source, rfl⟩
  | cons x t ih =>
    have others := fun y hy => downloads y (List.mem_cons_of_mem x hy)
    have first := downloads x List.mem_cons_self
    constructor
    · rintro ⟨source', ⟨m, source₁⟩, step, follows⟩
      obtain ⟨step, kept⟩ := stocked.delivers_of_supplies short first step
      exact ⟨m, step, (ih kept others).mp ⟨source', follows⟩⟩
    · rintro ⟨m, step, follows⟩
      obtain ⟨source₁, step⟩ := stocked.exists_supplied short first step
      have kept := (stocked.delivers_of_supplies short first step).2
      obtain ⟨source', follows⟩ := (ih kept others).mpr follows
      exact ⟨source', ⟨m, source₁⟩, step, follows⟩

/-- The runs through a source that is stocked at the start are all runs that there can be. -/
theorem follows_iff (stocked : Stocked env location path source w.files)
    (short : (env.objects location).size < wordLimit) (first : FetchesFirst location path t) :
    (∃ source', Answering.Follows (supplies env) ⟨w, source⟩ t ⟨w', source'⟩) ↔
      Answering.Follows env.delivers w t w' := by
  obtain ⟨front, back, rfl, downloads, none⟩ := first
  constructor
  · rintro ⟨source', follows⟩
    obtain ⟨⟨m, source₁⟩, before, after⟩ := follows_append.mp follows
    refine follows_append.mpr ⟨m, ?_, ((follows_iff_of_none none).mp after).2⟩
    exact (stocked.follows_iff_of_downloads short downloads).mp ⟨source₁, before⟩
  · intro follows
    obtain ⟨m, before, after⟩ := follows_append.mp follows
    obtain ⟨source₁, before⟩ := (stocked.follows_iff_of_downloads short downloads).mpr before
    exact ⟨source₁, follows_append.mpr ⟨_, before, (follows_iff_of_none none).mpr ⟨rfl, after⟩⟩⟩

end Stocked

/-- Files and memory are the same to whoever fetches from them. A source that has an object gives what the
object has from any offset on up to any limit, and all of it in chunks of any size; and so does a world in
memory, unless its script interferes. A transfer takes the same ways through any source that has its file,
if that is not the file which it downloads into: it can leave the same behind, and all that it stores is
what is announced of the file. -/
theorem sources_agree (content : Bytes) (small : content.size < 2 ^ 63) :
    (∀ (source : Source) (files : FileTree) (location : String), source.Has files location content →
      (∀ offset limit : UInt64,
        (source.chunk files location offset.toNat limit.toNat).1 = .ok (content.extract
          (min offset.toNat content.size) (min (offset.toNat + limit.toNat) content.size)) ∧
        (source.whole files location limit.toNat).1 =
          .ok (content.extract 0 (min limit.toNat content.size))) ∧
      ∀ size : UInt64, 0 < size.toNat →
        (∃ chunks source', Source.Drains files location size.toNat source 0 chunks source') ∧
        ∀ chunks source', Source.Drains files location size.toNat source 0 chunks source' →
          Source.joined chunks = content ∧ chunks.length = content.size ⌈/⌉ size.toNat ∧
          chunks.length * size.toNat < UInt64.size) ∧
    (∀ (w : Sandbox.World) (token : Option TaskId) (location : String) (offset limit : Nat),
      w.objects.script = [] →
      (Sandbox.fetchChunk token location offset limit w).settle.1 =
        (w.source.chunk w.files location offset limit).1 ∧
      (Sandbox.fetchWhole token location limit w).settle.1 =
        (w.source.whole w.files location limit).1) ∧
    ∀ (env : Setting) (engine : Engine) (task : Task) (file : RemoteFile) (chat post : Int),
      task.origin = .message file chat post → env.objects file.location = content →
      ∀ (w : Depot) (source : Source),
        Stocked env file.location (Transfer.cacheFile engine task) source w.files →
        (∃ t task' stage w' source', (Transfer.run engine task).Trace t (task', stage) ∧
          Answering.Follows (supplies env) ⟨w, source⟩ t ⟨w', source'⟩) ∧
        ∀ t task' stage w', (Transfer.run engine task).Trace t (task', stage) →
          (∀ other, Stocked env file.location (Transfer.cacheFile engine task) other w.files →
            ((∃ source', Answering.Follows (supplies env) ⟨w, source⟩ t ⟨w', source'⟩) ↔
              ∃ other', Answering.Follows (supplies env) ⟨w, other⟩ t ⟨w', other'⟩)) ∧
          ∀ source', Answering.Follows (supplies env) ⟨w, source⟩ t ⟨w', source'⟩ →
            Answering.Follows (env.storing (Transfer.stored content file.size)) w t w' ∧
            (stage = .ended (.ok ()) → Transfer.Saved t) := by
  have short : content.size < wordLimit := Nat.lt_trans small (by decide)
  refine ⟨fun source files location has => ⟨fun offset limit => ⟨?_, ?_⟩, fun size positive => ⟨?_, ?_⟩⟩,
    fun w token location offset limit unscripted =>
      ⟨Sandbox.fetchChunk_settle unscripted offset limit, Sandbox.fetchWhole_settle unscripted limit⟩, ?_⟩
  · refine (has.chunk short offset.toNat limit.toNat).1.trans (congrArg Except.ok ?_)
    apply extract_congr <;> omega
  · refine (has.whole limit.toNat).1.trans (congrArg Except.ok ?_)
    apply extract_congr <;> omega
  · exact has.exists_drains short positive 0
  · intro chunks source' drains
    obtain ⟨all, count⟩ := drains.joined_eq has short positive
    rw [Nat.sub_zero] at count
    exact ⟨all.trans ByteArray.extract_zero_size, count, count ▸ Source.ceilDiv_mul_lt small size.toNat_lt_size⟩
  · rintro env engine task file chat post message rfl w source stocked
    refine ⟨?_, fun t task' stage w' ran => ?_⟩
    · obtain ⟨t, ⟨task', stage⟩, ⟨w', source'⟩, ran, follows⟩ := Job.exists_trace (exists_supply env)
        (Transfer.run engine task) ⟨w, source⟩
      exact ⟨t, task', stage, w', source', ran, follows⟩
    · have first := Transfer.run_fetchesFirst message ran
      refine ⟨fun other alike => ?_, fun source' follows => ⟨?_, ?_⟩⟩
      · exact (stocked.follows_iff short first).trans (alike.follows_iff short first).symm
      · exact Transfer.run_storing message ran ((stocked.follows_iff short first).mp ⟨source', follows⟩)
      · obtain ⟨result, rfl, -, saved⟩ := Transfer.run_ends message ran
        exact fun through => saved (Stage.ended.inj through)

def oneFile : FileTree :=
  ⟨[(["doc"], .file ⟨#[1, 2, 3]⟩)], []⟩

def oneObject : Sandbox.Objects where
  entries := [("doc", ⟨#[1, 2, 3]⟩)]

/-- Its end is the same from both, also where the limit is the largest that there is; and so are transfers. -/
theorem sources_agree_on_attachment :
    (⟨#[1, 2, 3]⟩ : Bytes).size < 2 ^ 63 ∧
    ((Source.disk none).chunk oneFile "doc" 2 (UInt64.size - 1)).1 = .ok ⟨#[3]⟩ ∧
    ((Source.objects oneObject).chunk oneFile "doc" 2 (UInt64.size - 1)).1 = .ok ⟨#[3]⟩ ∧
    ∀ t task' stage w' source',
      (Transfer.run Transfer.oneShelf Transfer.attachment).Trace t (task', stage) →
      Answering.Follows (supplies Transfer.threeBytes) ⟨⟨oneFile, []⟩, .disk none⟩ t ⟨w', source'⟩ →
      (∃ other', Answering.Follows (supplies Transfer.threeBytes) ⟨⟨oneFile, []⟩, .objects oneObject⟩ t
        ⟨w', other'⟩) ∧
      Answering.Follows (Transfer.threeBytes.storing ⟨#[1, 2, 3]⟩) ⟨oneFile, []⟩ t w' := by
  have small : (⟨#[1, 2, 3]⟩ : Bytes).size < 2 ^ 63 := by decide
  have path_size : "doc".utf8ByteSize = 3 := by decide
  have target : oneFile.target "doc" = .ok ⟨["doc"], false, true⟩ := by
    simp [FileTree.target, FileTree.follow, Path.split, oneFile, path_size, FileTree.isDirectory,
      FileTree.find?, FileTree.longestPath, FileTree.longestName]
  have onDisk : (Source.disk none).Has oneFile "doc" ⟨#[1, 2, 3]⟩ :=
    FileTree.read_eq_holds.mpr ⟨_, ⟨_, target, rfl, rfl⟩, rfl⟩
  have inMemory : (Source.objects oneObject).Has oneFile "doc" ⟨#[1, 2, 3]⟩ := ⟨rfl, rfl, rfl⟩
  have apart : oneFile.standing "doc" ≠
      oneFile.standing (Transfer.cacheFile Transfer.oneShelf Transfer.attachment) := by decide +kernel
  have agree := sources_agree ⟨#[1, 2, 3]⟩ small
  have end_of {source : Source} (has : source.Has oneFile "doc" ⟨#[1, 2, 3]⟩) :
      (source.chunk oneFile "doc" 2 (UInt64.size - 1)).1 = .ok ⟨#[3]⟩ := by
    have most : (UInt64.ofNat (UInt64.size - 1)).toNat = UInt64.size - 1 := by decide
    have tail : (⟨#[1, 2, 3]⟩ : Bytes).extract (min 2 3) (min (2 + (UInt64.size - 1)) 3) = ⟨#[3]⟩ := by
      decide
    have given := ((agree.1 source oneFile "doc" has).1 2 (UInt64.ofNat (UInt64.size - 1))).1
    rw [most] at given
    exact given.trans (congrArg Except.ok tail)
  refine ⟨small, end_of onDisk, end_of inMemory, fun t task' stage w' source' ran follows => ?_⟩
  · have stocked : Stocked Transfer.threeBytes "doc"
        (Transfer.cacheFile Transfer.oneShelf Transfer.attachment) (.disk none) oneFile := by
      refine ⟨onDisk, fun root same => ?_⟩
      rw [← Source.disk.inj same]
      exact apart
    have alike := ((agree.2.2 Transfer.threeBytes Transfer.oneShelf Transfer.attachment
      ⟨"doc", 3, "notes.txt"⟩ 7 8 rfl rfl ⟨oneFile, []⟩ _ stocked).2 t task' stage w' ran)
    have same : Transfer.stored ⟨#[1, 2, 3]⟩ 3 = ⟨#[1, 2, 3]⟩ := by decide
    refine ⟨(alike.1 (.objects oneObject) (.of_objects inMemory)).mp ⟨source', follows⟩, ?_⟩
    rw [← same]
    exact (alike.2 source' follows).1

end Courier
