import Courier.Proofs.Transfer.Downloading
import Courier.Proofs.Transfer.Ways

/-! A transfer is truthful about where the bytes went: what it saves is what it downloaded, under the
storage and the path that its task has when it ends, and where it fails nothing is saved. -/
namespace Courier.Transfer

open Answering (follows_append)

variable {env : Setting} {w w' : Depot} {t : List Exchange}

/-- The extension that a name lacks where a content is recognised. -/
def lackingExtension (sniff : Bytes → Option String) (fileName : String) (content : Bytes) :
    Option String :=
  if Path.hasExtension fileName then none else sniff (content.extract 0 8192)

theorem missingExtension_trace {sniff : Bytes → Option String} {fileName cachePath : String}
    {content : Bytes} {found : Option String}
    (run : (missingExtension sniff fileName cachePath).Trace t found)
    (follows : Answering.Follows env.answers w t w')
    (read : w.files.read cachePath = .ok content) :
    w' = w ∧ found = lackingExtension sniff fileName content := by
  unfold missingExtension at run
  unfold lackingExtension
  by_cases given : Path.hasExtension fileName = true
  · simp only [if_pos given, Job.pure_eq, Job.trace_done] at run ⊢
    obtain ⟨rfl, rfl⟩ := run
    exact ⟨follows, rfl⟩
  · simp only [if_neg given, Job.bind_eq, Job.request, Job.ask_bind, Job.done_bind,
      Job.trace_ask] at run ⊢
    obtain ⟨reply, t, rfl, rest⟩ := run
    obtain ⟨w₁, answered, follows⟩ := follows
    rw [Setting.answers, read] at answered
    obtain ⟨rfl, rfl⟩ := answered
    simp only [Except.map, Job.pure_eq, Job.trace_done] at rest
    obtain ⟨rfl, rfl⟩ := rest
    exact ⟨follows, rfl⟩

/-- A task whose file has got the extension that its name lacks. -/
def completed (sniff : Bytes → Option String) (task : Task) (content : Bytes) : Task :=
  match lackingExtension sniff task.fileName content with
  | some extension => withExtension task extension
  | none => task

theorem save_written {policy : RetryPolicy} {number : Nat} {localPath path : String}
    {content : Bytes} {result : Except TransferError Unit}
    (run : (saveWithRetry policy (.backend number) localPath path).Trace t result)
    (follows : Answering.Follows env.answers w t w')
    (read : w.files.read localPath = .ok content) :
    (result = .ok () ∧ w'.written = w.written ++ [(number, path, content)]) ∨
      ∃ e, result = .error e ∧ w'.written = w.written ∧ Hindered t := by
  rcases saveWithRetry_trace run with ⟨front, rfl, rfl, nothing⟩ | ⟨e, rfl, nothing, why⟩
  · obtain ⟨w₁, follows₁, w₂, saved, rfl⟩ := follows_append.mp follows
    obtain rfl := follows₁.eq_of_forall_mem nothing fun _ _ _ _ => Setting.eq_of_savesNothing
    rcases saved with ⟨-, ⟨⟨e, h⟩, -⟩ | ⟨-, held, read', written⟩⟩
    · contradiction
    · rw [read] at read'
      obtain rfl := Except.ok.inj read'
      exact Or.inl ⟨rfl, written⟩
  · have h := follows.eq_of_forall_mem nothing fun _ _ _ _ => Setting.eq_of_savesNothing
    refine Or.inr ⟨e, rfl, by rw [h], ?_⟩
    rcases why with told | ⟨cause, failed⟩
    · exact ⟨_, told, rfl⟩
    · exact ⟨_, failed, by simp [Hinders]⟩

theorem persist_trace {engine : Engine} {task task' : Task} {number : Nat} {cachePath : String}
    {content : Bytes} {result : Except TransferError Unit}
    (run : (persist engine task (.backend number) cachePath).Trace t (task', result))
    (follows : Answering.Follows env.answers w t w')
    (read : w.files.read cachePath = .ok content) :
    (result = .ok () ∧ task' = completed engine.libraries.sniff task content ∧
      w'.written = w.written ++ [(number, task'.path, content)]) ∨
    ∃ e, result = .error e ∧ w'.written = w.written ∧ Hindered t := by
  simp only [persist, Job.bind_eq, Job.trace_bind, Job.pure_eq, Job.trace_done, Prod.mk.injEq] at run
  obtain ⟨found, t₁, _, rfl, sniffing, saved, t₂, _, rfl, saving, rfl, rfl, rfl⟩ := run
  rw [List.append_nil] at follows ⊢
  obtain ⟨w₁, follows₁, follows₂⟩ := follows_append.mp follows
  obtain ⟨rfl, rfl⟩ := missingExtension_trace sniffing follows₁ read
  rcases save_written saving follows₂ read with ⟨rfl, written⟩ | ⟨e, rfl, written, why⟩
  · exact Or.inl ⟨rfl, rfl, written⟩
  · exact Or.inr ⟨e, rfl, written, why.append_right t₁⟩

theorem carry_trace {engine : Engine} {task task' : Task} {file : RemoteFile} {number : Nat}
    {cachePath : String} {result : Except TransferError Unit}
    (large : file.size ≤ (env.objects file.location).size)
    (run : (carry engine task file (.backend number) cachePath).Trace t (task', result))
    (follows : Answering.Follows env.answers w t w') :
    (result = .ok () ∧ task' = completed engine.libraries.sniff task (wanted env file) ∧
      w'.written = w.written ++ [(number, task'.path, wanted env file)]) ∨
    ∃ e, result = .error e ∧ w'.written = w.written ∧ Hindered t := by
  simp only [carry, Job.bind_eq, Job.trace_bind] at run
  obtain ⟨downloaded, t₁, t₂, rfl, downloading, rest⟩ := run
  obtain ⟨w₁, follows₁, follows₂⟩ := follows_append.mp follows
  obtain ⟨unwritten, ⟨rfl, read⟩ | ⟨e, rfl, why⟩⟩ := fetchFile_trace large downloading follows₁
  · rw [← unwritten]
    refine (persist_trace rest follows₂ read).imp_right ?_
    rintro ⟨e, rfl, written, why⟩
    exact ⟨e, rfl, written, why.append_right t₁⟩
  · simp only [Job.pure_eq, Job.trace_done, Prod.mk.injEq] at rest
    obtain ⟨rfl, -, rfl⟩ := rest
    obtain rfl : w' = w₁ := follows₂
    exact Or.inr ⟨e, rfl, unwritten, why.append_left []⟩

/-- What a content makes of the end of a name, and of a path. -/
def suffix (sniff : Bytes → Option String) (fileName : String) (content : Bytes) : String :=
  match lackingExtension sniff fileName content with
  | some extension => "." ++ extension
  | none => ""

theorem completed_spec (sniff : Bytes → Option String) {task : Task} {file : RemoteFile}
    {chat post : Int} (content : Bytes) (message : task.origin = .message file chat post) :
    (completed sniff task content).storage = task.storage ∧
      (completed sniff task content).path = task.path ++ suffix sniff task.fileName content ∧
      (completed sniff task content).fileName =
        task.fileName ++ suffix sniff task.fileName content := by
  unfold completed suffix
  cases lackingExtension sniff task.fileName content with
  | none => simp
  | some extension =>
    refine ⟨rfl, String.append_assoc .., ?_⟩
    show (task.origin.rename (task.fileName ++ "." ++ extension)).fileName = _
    rw [message, Origin.rename, Origin.fileName, String.append_assoc]

/-- A file without a name gets the one made up for it, and a task without a path goes by the name. -/
theorem prepared_spec {task : Task} {file : RemoteFile} {chat post : Int}
    (message : task.origin = .message file chat post) :
    (prepared task).origin = .message
        { file with name := if file.name.isEmpty then file.fallbackName chat post else file.name }
        chat post ∧
      (prepared task).path = if task.path.isEmpty then (prepared task).fileName else task.path := by
  have named : task.withName.origin = .message
        { file with name := if file.name.isEmpty then file.fallbackName chat post else file.name }
        chat post ∧ task.withName.path = task.path := by
    unfold Task.withName
    rw [message]
    dsimp only
    by_cases nameless : file.name.isEmpty = true
    · rw [if_pos nameless, if_pos nameless, Task.rename, message, Origin.rename]
      exact ⟨rfl, rfl⟩
    · rw [if_neg nameless, if_neg nameless]
      exact ⟨message, rfl⟩
  unfold prepared
  dsimp only
  rw [named.2]
  by_cases pathless : task.path.isEmpty = true
  · rw [if_pos pathless, if_pos pathless]
    exact ⟨named.1, rfl⟩
  · rw [if_neg pathless, if_neg pathless]
    exact named

theorem work_trace {engine : Engine} {task task' : Task} {stage : Stage} {file : RemoteFile}
    {chat post : Int} {number : Nat} (message : task.origin = .message file chat post)
    (large : file.size ≤ (env.objects file.location).size)
    (run : (work engine task (.backend number)).Trace t (task', stage))
    (follows : Answering.Follows env.answers w t w') :
    (stage = .ended (.ok ()) ∧ task' = completed engine.libraries.sniff task (wanted env file) ∧
      w'.written = w.written ++ [(number, task'.path, wanted env file)]) ∨
    ∃ e, stage = .ended (.error e) ∧ w'.written = w.written ∧ Hindered t := by
  rcases works_of_message message run with ⟨e, rfl, -, rfl⟩ | ⟨t₁, result, rfl, rfl, carrying⟩
  · obtain ⟨w₁, made, rfl⟩ := follows
    exact Or.inr ⟨_, rfl, made.1, hindered_head (by simp [Hinders]) []⟩
  · obtain ⟨w₁, made, follows⟩ := follows
    obtain ⟨w₂, follows₁, w₃, disposed, rfl⟩ := follows_append.mp follows
    have written : w'.written = w₂.written := disposed
    rw [written, ← made.1]
    rcases carry_trace large carrying follows₁ with ⟨rfl, rfl, saved⟩ | ⟨e, rfl, unsaved, why⟩
    · exact Or.inl ⟨rfl, rfl, saved⟩
    · exact Or.inr ⟨e, rfl, unsaved, (why.append_left _).cons _⟩

theorem find?_of_get {registry : Registry} {user : Int} {name : String} {storage : Storage}
    (h : registry.get user name = .ok storage) : registry.find? storage.name = some storage := by
  unfold Registry.get at h
  cases hf : registry.find? name with
  | none => simp [hf] at h
  | some found =>
    simp only [hf] at h
    split at h
    · obtain rfl := Except.ok.inj h
      have hname : found.name = name := by simpa using List.find?_some hf
      rw [hname, hf]
    · contradiction

theorem find?_of_destination {patterns : PatternCompiler} {registry : Registry} {task : Task}
    {rules : Except CallError UserRules} {text : Except CallError (Option String)} {route : Route}
    (h : Router.destination patterns registry task rules text = .ok route) :
    registry.find? route.storage.name = some route.storage := by
  obtain ⟨_, hg, rfl⟩ | ⟨_, -, _, hg, rfl⟩ := Router.destination_cases h <;> exact find?_of_get hg

/-- A transfer comes to an end in any world. When it succeeds exactly one entry has been written, to
the storage and under the path that the task has then: the first bytes of the object, where the
router sends the prepared task, with the extension that its name lacks. When it fails nothing has
been written, and either something failed on the way or the task had no destination. -/
theorem saved_where_recorded (env : Setting) (engine : Engine) (task : Task) (w : Depot)
    {file : RemoteFile} {chat post : Int} (message : task.origin = .message file chat post)
    (shelves : ∀ storage ∈ engine.registry.storages, ∃ number, storage.medium = .backend number)
    (large : file.size ≤ (env.objects file.location).size) :
    (∃ t task' stage w', (run engine task).Trace t (task', stage) ∧
      Answering.Follows env.answers w t w') ∧
    (prepared task).fileName =
      (if file.name.isEmpty then file.fallbackName chat post else file.name) ∧
    (prepared task).path = (if task.path.isEmpty then (prepared task).fileName else task.path) ∧
    ∀ t task' stage w', (run engine task).Trace t (task', stage) →
      Answering.Follows env.answers w t w' →
      (stage = .ended (.ok ()) ∧ ∃ route number content,
        Router.destination engine.libraries.patterns engine.registry (prepared task) env.rules
          env.text = .ok route ∧
        task'.storage = route.storage.name ∧
        engine.registry.find? task'.storage = some route.storage ∧
        route.storage.medium = .backend number ∧
        w'.written = w.written ++ [(number, task'.path, content)] ∧
        content = (env.objects file.location).extract 0
          (if file.size = 0 then 1024 * 1024 else file.size) ∧
        task'.path = route.path ++
          suffix engine.libraries.sniff (prepared task).fileName content ∧
        task'.fileName = (prepared task).fileName ++
          suffix engine.libraries.sniff (prepared task).fileName content) ∨
      ∃ e, stage = .ended (.error e) ∧ w'.written = w.written ∧
        (Hindered t ∨
          Router.destination engine.libraries.patterns engine.registry (prepared task) env.rules
            env.text = .error e) := by
  obtain ⟨origin, path⟩ := prepared_spec message
  refine ⟨?_, by rw [Task.fileName, origin, Origin.fileName], path, ?_⟩
  · obtain ⟨t, ⟨task', stage⟩, w', ran, follows⟩ := Job.exists_trace env.exists_answer
      (run engine task) w
    exact ⟨t, task', stage, w', ran, follows⟩
  intro t task' stage w' ran follows
  simp only [run, Job.bind_eq, Job.request, Job.ask_bind, Job.done_bind, Job.trace_ask] at ran
  obtain ⟨canceled, t, rfl, rest⟩ := ran
  obtain ⟨w₁, looked, follows⟩ := follows
  obtain rfl : w₁ = w := looked
  cases canceled with
  | true =>
    simp only [if_true, Job.pure_eq, Job.trace_done, Prod.mk.injEq] at rest
    obtain ⟨rfl, -, rfl⟩ := rest
    obtain rfl : w' = w₁ := follows
    exact Or.inr ⟨_, rfl, rfl, Or.inl ⟨⟨.canceled, true⟩, List.mem_cons_self .., rfl⟩⟩
  | false =>
    simp only [Bool.false_eq_true, if_false, Job.trace_bind] at rest
    obtain ⟨resolved, t₁, t₂, rfl, resolving, rest⟩ := rest
    obtain ⟨w₂, follows₁, follows₂⟩ := follows_append.mp follows
    -- Routing only asks, so that the work begins in the world as it was.
    have asks : (Router.resolve engine.libraries.patterns engine.registry (prepared task)).Asks
        (Setting.isQuiet · = true) :=
      Router.resolve_asks (fun _ => rfl) (fun _ _ => rfl) engine.registry (prepared task)
    obtain rfl := Setting.eq_of_asks_isQuiet asks resolving follows₁
    have destined := (Router.resolve_trace resolving (Setting.told follows₁)).1
    cases resolved with
    | error e =>
      simp only [Job.pure_eq, Job.trace_done, Prod.mk.injEq] at rest
      obtain ⟨rfl, -, rfl⟩ := rest
      obtain rfl : w' = w₂ := follows₂
      exact Or.inr ⟨e, rfl, rfl, Or.inr destined.symm⟩
    | ok route =>
      have found := find?_of_destination destined.symm
      obtain ⟨number, hnumber⟩ := shelves route.storage (List.mem_of_find?_eq_some found)
      have routedOrigin := show (routed (prepared task) route).origin = _ from origin
      simp only [hnumber] at rest
      rcases work_trace routedOrigin large rest follows₂ with ⟨rfl, rfl, written⟩ | ⟨e, rfl, unwritten, why⟩
      · obtain ⟨hstorage, hpath, hname⟩ := completed_spec engine.libraries.sniff (wanted env file) routedOrigin
        refine Or.inl ⟨rfl, route, number, _, destined.symm, hstorage, ?_, hnumber, written, rfl,
          hpath, hname⟩
        show engine.registry.find? (completed engine.libraries.sniff (routed (prepared task) route)
          (wanted env file)).storage = _
        rw [hstorage]
        exact found
      · exact Or.inr ⟨e, rfl, unwritten, Or.inl ((why.append_right t₁).cons _)⟩

def attachment : Task :=
  .new 1 (.message ⟨"doc", 3, "notes.txt"⟩ 7 8) "shelf" 5 ""

def threeBytes : Setting :=
  ⟨fun _ => ⟨#[1, 2, 3]⟩, .ok ⟨false, []⟩, .ok none⟩

/-- Libraries that compile no pattern, read no link and tell no content. -/
def noLibraries : Libraries where
  patterns _ := .error "unsupported"
  links _ := none
  sniff _ := none

def oneShelf : Engine :=
  ⟨⟨[], [⟨"shelf", .minio, .backend 0, id⟩], []⟩, .standard, "cache", none, noLibraries⟩

section Scan

def page : Bytes := ⟨#[37, 80, 68, 70]⟩

/-- A message whose file is of unknown size and has a name without an extension. -/
def scan : Task :=
  .new 1 (.message ⟨"scan", 0, "page"⟩ 7 8) "shelf" 5 ""

def onePage : Setting :=
  ⟨fun _ => page, .ok ⟨false, []⟩, .ok none⟩

/-- An engine that tells pages by how they begin and keeps cache files in the working directory. -/
def pageShelf : Engine :=
  { oneShelf with
    cacheDir := ""
    libraries := { noLibraries with
      sniff head := match head.data.toList with
        | 37 :: 80 :: 68 :: 70 :: _ => some "pdf"
        | _ => none } }

def scanned : Task :=
  withExtension (routed (prepared scan) ⟨⟨"shelf", .minio, .backend 0, id⟩, "page"⟩) "pdf"

/-- What the transfer of the page asks for, and the answers. -/
def scanning : List Exchange :=
  [⟨.canceled, false⟩, ⟨.userRules 5, Except.ok ⟨false, []⟩⟩, ⟨.makeDirectories "", Except.ok ()⟩,
    ⟨.canceled, false⟩, ⟨.fetchWhole "scan" chunkSize, some (Except.ok page)⟩,
    ⟨.writeFile "1_page" page, Except.ok ()⟩,
    ⟨.progress ⟨1, scan.key, "page", "shelf", "page"⟩ 4 4, ()⟩,
    ⟨.readHead "1_page" headSize, Except.ok page⟩, ⟨.canceled, false⟩,
    ⟨.save (.backend 0) "1_page" "page.pdf", Except.ok ()⟩, ⟨.dispose "1_page", ()⟩]

theorem run_scan : (run pageShelf scan).Trace scanning (scanned, .ended (.ok ())) := by
  have own : Path.below "" (cacheName 1 "page") = "1_page" := by decide +kernel
  have resolving : (Router.resolve pageShelf.libraries.patterns pageShelf.registry
      (prepared scan)).Trace [⟨.userRules 5, Except.ok ⟨false, []⟩⟩]
      (.ok ⟨⟨"shelf", .minio, .backend 0, id⟩, "page"⟩) :=
    Job.Trace.ask (r := .userRules 5) (Except.ok ⟨false, []⟩) (.done _)
  simp only [run, Job.bind_eq, Job.request, Job.ask_bind, Job.done_bind, Job.trace_ask]
  refine ⟨false, _, rfl, ?_⟩
  simp only [Bool.false_eq_true, if_false, Job.trace_bind]
  refine ⟨_, _, _, rfl, resolving, ?_⟩
  rw [← own]
  refine Job.Trace.ask (r := .makeDirectories "") (Except.ok ()) ?_
  refine Job.Trace.ask (r := .canceled) false ?_
  refine Job.Trace.ask (r := .fetchWhole "scan" chunkSize) (some (Except.ok page)) ?_
  refine Job.Trace.ask (r := .writeFile _ page) (Except.ok ()) ?_
  refine Job.Trace.ask (r := .progress _ 4 4) () ?_
  refine Job.Trace.ask (r := .readHead _ headSize) (Except.ok page) ?_
  refine Job.Trace.ask (r := .canceled) false ?_
  refine Job.Trace.ask (r := .save (.backend 0) _ "page.pdf") (Except.ok ()) ?_
  exact Job.Trace.ask (r := .dispose _) () (.done _)

theorem follows_scanning : ∃ w',
    Answering.Follows onePage.answers ⟨.empty [], []⟩ scanning w' := by
  have target : (FileTree.empty []).target "1_page" = .ok ⟨["1_page"], false, true⟩ := by
    have size : "1_page".utf8ByteSize = 6 := by decide
    simp [FileTree.target, FileTree.follow, Path.split, FileTree.empty, size,
      FileTree.isDirectory, FileTree.find?, FileTree.longestPath, FileTree.longestName]
  have leads : (FileTree.empty []).LeadsTo "1_page" ["1_page"] :=
    FileTree.leadsTo_of_target target rfl (by simp [FileTree.empty, FileTree.find?])
  let files := (FileTree.empty []).put ["1_page"] (.file page)
  have made : (FileTree.empty []).makeDirectories "" = .ok (.empty []) := by
    simp [FileTree.makeDirectories, FileTree.pave, Path.named, FileTree.paveUpTo]
  have written : (FileTree.empty []).write "1_page" page = .ok files := by
    rw [FileTree.write, FileTree.writable, target]
    rfl
  have read : files.read "1_page" = .ok page := FileTree.read_eq_ok.mpr ⟨_, leads.lookup_put _⟩
  have fetched : page = (onePage.objects "scan").extract 0 chunkSize := by decide +kernel
  let start : Depot := ⟨.empty [], []⟩
  let kept : Depot := ⟨files, []⟩
  let saved : Depot := ⟨files, [(0, "page.pdf", page)]⟩
  refine ⟨saved, start, rfl, start, ⟨rfl, rfl⟩, start, ⟨rfl, fun _ => made⟩, start, rfl,
    start, ⟨rfl, fun bytes same => ?_⟩, kept, ⟨rfl, fun _ => written⟩, kept, rfl, kept, ⟨?_, rfl⟩,
    kept, rfl, saved, ⟨rfl, .inr ⟨rfl, page, read, rfl⟩⟩, saved, rfl, rfl⟩
  · rw [← Except.ok.inj (Option.some.inj same)]
    exact fetched
  · rw [read]
    rfl

/-- A page is saved once, whole, and with the extension that it shows in its name and in its path. -/
theorem saved_where_recorded_of_scan : ∃ t w',
    (run pageShelf scan).Trace t (scanned, .ended (.ok ())) ∧
    Answering.Follows onePage.answers ⟨.empty [], []⟩ t w' ∧
    scanned.fileName = "page.pdf" ∧ w'.written = [(0, "page.pdf", page)] := by
  have shelves : ∀ storage ∈ pageShelf.registry.storages, ∃ number, storage.medium = .backend number := by
    intro storage hs
    rw [List.mem_singleton.mp hs]
    exact ⟨0, rfl⟩
  obtain ⟨w', follows⟩ := follows_scanning
  have saved := (saved_where_recorded onePage pageShelf scan ⟨.empty [], []⟩ rfl shelves
    (Nat.zero_le _)).2.2.2 scanning scanned _ w' run_scan follows
  rcases saved with ⟨-, route, number, content, -, -, found, medium, written, rfl, -⟩ | ⟨e, failed, -⟩
  · rw [List.mem_singleton.mp (List.mem_of_find?_eq_some found)] at medium
    obtain rfl : 0 = number := Medium.backend.inj medium
    have whole : (onePage.objects "scan").extract 0 (if 0 = 0 then 1024 * 1024 else 0) = page := by
      decide +kernel
    exact ⟨scanning, w', run_scan, follows, rfl, written.trans (whole ▸ rfl)⟩
  · exact absurd failed (by simp)

end Scan

end Courier.Transfer
