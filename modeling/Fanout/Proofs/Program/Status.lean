import Fanout.Program.Run
import Fanout.Proofs.Command.Executor
import Fanout.Proofs.Config.Load
import Fanout.Proofs.Dispatch.Reference
import Fanout.Proofs.FileTree
import Fanout.Proofs.Host.Set

/-!
# How a dispatch from the command line ends

A command that dispatches either stops before any operation begins, and the status says that the
request cannot be carried out, or it dispatches, and the outcomes of the hosts decide. How results
are shown never counts.
-/
namespace Fanout

/-! ## Jobs -/

/-- What a command runs on its hosts, and on which. -/
structure Job where
  template : String
  label : String
  scope : Scope
  options : DispatchOptions
  isLocal : Bool

namespace Request

def job? : Request → Option Job
  | .run words scope options isLocal _ =>
    some ⟨" ".intercalate words, " ".intercalate words, scope, options, isLocal⟩
  | .ping scope options _ => some ⟨Setting.pingCommand, "ping", scope, options, false⟩
  | .hosts _ _ => none
  | .completions _ => none

/-- Whether results are to be shown as JSON. -/
def json : Request → Bool
  | .run _ _ _ _ json => json
  | .ping _ _ json => json
  | .hosts _ json => json
  | .completions _ => false

def withJson (json : Bool) : Request → Request
  | .run words scope options isLocal _ => .run words scope options isLocal json
  | .ping scope options _ => .ping scope options json
  | .hosts scope _ => .hosts scope json
  | .completions shell => .completions shell

theorem job?_withJson (json : Bool) (r : Request) : (r.withJson json).job? = r.job? := by
  cases r <;> rfl

theorem keepsLog_withJson (json : Bool) (r : Request) : (r.withJson json).keepsLog = r.keepsLog := by
  cases r <;> rfl

end Request

/-- An invocation with its results shown in another way. -/
def Invocation.showing (inv : Invocation) (verbosity : Nat) (quiet json : Bool) : Invocation :=
  { inv with verbosity := verbosity, quiet := quiet, request := inv.request.withJson json }

/-! ## Statuses -/

/-- The status of a command whose dispatch came to some outcomes. -/
theorem statusOf_verdict (m : Outcomes) :
    Setting.statusOf (Verdict.ofOutcomes m ExitCode.hostsFailed).result =
      if m.summary.isSuccess then 0 else 1 := by
  cases hs : m.summary.isSuccess with
  | true => simp [Verdict.ofOutcomes, Verdict.result, Outcomes.diagnostic?, hs, Setting.statusOf]
  | false =>
      simp only [Verdict.ofOutcomes, Verdict.result, Outcomes.diagnostic?, hs, Bool.false_eq_true,
        ↓reduceIte, Option.map_some]
      rfl

/-- What the configuration's code gives. -/
theorem exitStatus_configInvalid (f : Failure) :
    (Failure.coded ExitCode.configInvalid f).exitStatus = 3 :=
  rfl

namespace Setting

variable {σ : Type}

/-- The operation that a job runs on its hosts. -/
def operation (s : Setting σ) (j : Job) (config : Config) : Operation σ :=
  Operation.executor s.launch j.template j.isLocal config.ssh
    (j.options.retries.getD config.dispatch.retries)

/-- The dispatch of a job. -/
def dispatch (s : Setting σ) (j : Job) (config : Config) (hosts : HostSet) (files : FileTree) :
    Dispatched σ :=
  Dispatch.run (config.policy j.options.jobs j.options.failFast) hosts s.pick
    (s.operation j config) (s.start files) true

variable {s : Setting σ} {inv : Invocation} {j : Job} {files : FileTree} {config : Config}
  {file : Option Log.LogFile}

theorem perform_eq_runTemplate (h : inv.request.job? = some j) (files : FileTree) :
    s.perform inv files = s.runTemplate inv files j.template j.label j.scope j.options j.isLocal
      inv.request.json := by
  simp only [perform]
  cases hr : inv.request with
  | run => rw [hr] at h; cases h; rfl
  | ping => rw [hr] at h; cases h; rfl
  | hosts => rw [hr] at h; cases h
  | completions => rw [hr] at h; cases h

/-! ## How a job ends -/

/-- Why a selection or its dispatch is refused: two hosts of one id, or no execution allowed, neither
by the command line nor, if that does not say, by the file. -/
inductive Refused (j : Job) (config : Config) : Prop where
  | repeated (h : ¬ ((config.cluster.candidates j.scope).map Host.id).Nodup) : Refused j config
  | noJobs (h : j.options.jobs.getD config.dispatch.jobs = 0) : Refused j config

/-- Why no operation of a job begins: there is no log file, no valid cluster file, or the dispatch is
refused. -/
inductive Blocked (s : Setting σ) (inv : Invocation) (j : Job) : Prop where
  | noLog {e : Failure} (h : s.openLog inv = .error e) : Blocked s inv j
  | unloadable {file : Option Log.LogFile} {files : FileTree}
      (hlog : s.openLog inv = .ok (file, files)) (h : Config.Unloadable files s.env inv.config) :
      Blocked s inv j
  | refused {file : Option Log.LogFile} {files : FileTree} {config : Config}
      (hlog : s.openLog inv = .ok (file, files))
      (hload : Config.Loads files s.env inv.config config) (h : Refused j config) : Blocked s inv j

/-- The job is dispatched to `hosts`, with outcomes `m`. -/
inductive Dispatches (s : Setting σ) (inv : Invocation) (j : Job) (hosts : HostSet) (m : Outcomes) :
    Prop where
  | intro {file : Option Log.LogFile} {files : FileTree} {config : Config}
      (hlog : s.openLog inv = .ok (file, files))
      (hload : Config.Loads files s.env inv.config config)
      (hselect : config.cluster.select j.scope = .ok hosts)
      (hjobs : j.options.jobs.getD config.dispatch.jobs ≠ 0)
      (hm : (s.dispatch j config hosts files).result = .ok m) : Dispatches s inv j hosts m

theorem exists_dispatch_result (s : Setting σ) (hjobs : j.options.jobs.getD config.dispatch.jobs ≠ 0)
    (hosts : HostSet) (files : FileTree) :
    ∃ m, (s.dispatch j config hosts files).result = .ok m ∧ m.ids.Perm hosts.ids := by
  have hpolicy : (config.policy j.options.jobs j.options.failFast).maxConcurrency ≠ 0 := hjobs
  exact Dispatch.exists_result hpolicy _ _ _ _

theorem blocked_or_dispatches (s : Setting σ) (inv : Invocation) (j : Job) :
    Blocked s inv j ∨ ∃ hosts m, Dispatches s inv j hosts m := by
  cases hlog : s.openLog inv with
  | error e => exact Or.inl (.noLog hlog)
  | ok opened =>
      obtain ⟨file, files⟩ := opened
      rcases Config.exists_loads_or_unloadable files s.env inv.config with ⟨config, hload⟩ | hno
      · by_cases hnd : ((config.cluster.candidates j.scope).map Host.id).Nodup
        · by_cases hjobs : j.options.jobs.getD config.dispatch.jobs = 0
          · exact Or.inl (.refused hlog hload (.noJobs hjobs))
          · obtain ⟨m, hm, -⟩ := exists_dispatch_result s hjobs _ files
            exact Or.inr ⟨_, m, .intro hlog hload (HostSet.ofList_eq_ok hnd) hjobs hm⟩
        · exact Or.inl (.refused hlog hload (.repeated hnd))
      · exact Or.inl (.unloadable hlog hno)

theorem Dispatches.ids_perm {hosts : HostSet} {m : Outcomes} (h : Dispatches s inv j hosts m) :
    m.ids.Perm hosts.ids := by
  obtain ⟨-, -, -, hjobs, hm⟩ := h
  obtain ⟨m', hm', hids⟩ := exists_dispatch_result s hjobs hosts _
  cases hm.symm.trans hm'
  exact hids

/-! ## The two endings -/

theorem runTemplate_of_unloadable (h : Config.Unloadable files s.env inv.config)
    (template label : String) (scope : Scope) (options : DispatchOptions) (isLocal json : Bool) :
    ∃ e, ∀ launch, { s with launch := launch }.runTemplate inv files template label scope options
        isLocal json =
      (.error (.coded ExitCode.configInvalid e),
        Transcript.ofRecords (Config.load files s.env inv.config).2, s.start files) := by
  obtain ⟨e, he⟩ := Config.exists_load_eq_error h
  refine ⟨e, fun launch => ?_⟩
  simp only [runTemplate, loadCluster, he, mapError_error]

theorem runTemplate_of_loads (s : Setting σ) (h : Config.Loads files s.env inv.config config)
    (j : Job) (json : Bool) :
    s.runTemplate inv files j.template j.label j.scope j.options j.isLocal json =
      let e := execute (s.display inv json) config j.scope j.options s.pick (s.operation j config)
        j.label (s.start files)
      (e.finish, Transcript.ofRecords (Config.load files s.env inv.config).2 ++ e.transcript,
        e.world) := by
  simp only [runTemplate, loadCluster, Config.load_of_loads h, mapError_ok]
  rfl

/-- A refused dispatch never asks for its operation. -/
theorem execute_of_refused (σ : Type) (h : Refused j config) :
    ∃ e, ∀ (display : Display) (pick : Dispatch.Schedule) (op : Operation σ) (world : σ),
      execute display config j.scope j.options pick op j.label world =
        ⟨.error (.coded ExitCode.configInvalid (.fault e)), [], world⟩ := by
  cases hselect : config.cluster.select j.scope with
  | error e =>
      exact ⟨e, fun display pick op world => by simp only [execute, hselect, selectionFailure]⟩
  | ok hosts =>
      cases h with
      | repeated h =>
          obtain ⟨id, hid⟩ := HostSet.exists_ofList_eq_error h
          cases hselect.symm.trans hid
      | noJobs h =>
          have hpolicy : (config.policy j.options.jobs j.options.failFast).maxConcurrency = 0 := h
          refine ⟨.noConcurrency, fun display pick op world => ?_⟩
          simp only [execute, hselect, Dispatch.run, hpolicy, ↓reduceIte, List.flatMap_nil]
          rfl

/-- The files after the log file was opened, if it was. -/
def opened (s : Setting σ) (inv : Invocation) : FileTree :=
  match s.openLog inv with
  | .ok (_, files) => files
  | .error _ => s.files

theorem records_ofRecords (log : List Log.Record) : (Transcript.ofRecords log).records = log := by
  simp [Transcript.ofRecords, Transcript.records, List.filterMap_map]

theorem records_append (t u : Transcript) :
    Transcript.records (t ++ u) = t.records ++ u.records := by
  simp [Transcript.records]

/-- A job that gets no configuration, or is refused, fails with the configuration's code, whatever
would start its programs. -/
theorem perform_of_stopped (hjob : inv.request.job? = some j)
    (h : Config.Unloadable files s.env inv.config ∨
      ∃ config, Config.Loads files s.env inv.config config ∧ Refused j config) :
    ∃ e, ∀ launch, { s with launch := launch }.perform inv files =
      (.error (.coded ExitCode.configInvalid e),
        Transcript.ofRecords (Config.load files s.env inv.config).2, s.start files) := by
  rcases h with h | ⟨config, hload, h⟩
  · obtain ⟨e, he⟩ := runTemplate_of_unloadable h j.template j.label j.scope j.options j.isLocal
      inv.request.json
    exact ⟨e, fun launch => (perform_eq_runTemplate hjob files).trans (he launch)⟩
  · obtain ⟨e, he⟩ := execute_of_refused σ h
    refine ⟨.fault e, fun launch => ?_⟩
    have hrun := runTemplate_of_loads { s with launch := launch } hload j inv.request.json
    rw [perform_eq_runTemplate hjob files, hrun, he]
    simp [Executed.finish, bind, Except.bind]

theorem exitStatus_of_openLog {e : Failure} (h : s.openLog inv = .error e) : e.exitStatus = 3 := by
  simp only [openLog] at h
  split at h
  · generalize (do
      let dir ← Path.logDir s.env inv.logDir
      Log.LogFile.openIn s.files s.env s.origin dir inv.logLevel) = opened at h
    cases opened with
    | ok opened => cases h
    | error cause =>
        cases h
        exact exitStatus_configInvalid cause
  · cases h

/-- Loading the cluster file is told of before any operation is. -/
theorem topic_ne_runner {given : Option String} {env : Environment} {r : Log.Record}
    (h : r ∈ (Config.load files env given).2) : r.topic ≠ Log.Topic.runner := by
  rcases Config.topic_of_mem_load h with ht | ht <;> rw [ht] <;> decide

theorem topic_ne_runner_of_start {r : Log.Record}
    (h : r ∈ Transcript.records (file.toList.map fun file => Note.logged (startNote file))) :
    r.topic ≠ Log.Topic.runner := by
  cases file with
  | none => cases h
  | some file =>
      obtain rfl : r = startNote file := by simpa [Transcript.records] using h
      show Log.Topic.program ≠ Log.Topic.runner
      decide

theorem Blocked.stopped (h : Blocked s inv j) (hlog : s.openLog inv = .ok (file, files)) :
    Config.Unloadable files s.env inv.config ∨
      ∃ config, Config.Loads files s.env inv.config config ∧ Refused j config := by
  cases h with
  | noLog h => cases hlog.symm.trans h
  | unloadable h hno => cases hlog.symm.trans h; exact Or.inl hno
  | refused h hload href => cases hlog.symm.trans h; exact Or.inr ⟨_, hload, href⟩

theorem Blocked.run_eq (hjob : inv.request.job? = some j) (h : Blocked s inv j) :
    ∃ notes file, (∀ r ∈ Transcript.records notes, r.topic ≠ Log.Topic.runner) ∧
      ∀ launch, { s with launch := launch }.run inv =
        ⟨3, notes, file, s.start (s.opened inv)⟩ := by
  cases hlog : s.openLog inv with
  | error e =>
      have he : e.exitStatus = 3 := exitStatus_of_openLog hlog
      refine ⟨[s.failureNote e], none, by simp [Transcript.records, failureNote], fun launch => ?_⟩
      have hlog' : { s with launch := launch }.openLog inv = .error e := hlog
      simp only [run, hlog', opened, hlog, he]
      rfl
  | ok opened =>
      obtain ⟨file, files⟩ := opened
      obtain ⟨e, he⟩ := perform_of_stopped hjob (h.stopped hlog)
      refine ⟨(file.toList.map fun file => Note.logged (startNote file)) ++
        Transcript.ofRecords (Config.load files s.env inv.config).2 ++
          [s.failureNote (.coded ExitCode.configInvalid e)], file, ?_, fun launch => ?_⟩
      · intro r hr
        rw [records_append, records_append, records_ofRecords] at hr
        rcases List.mem_append.mp hr with hr | hr
        · rcases List.mem_append.mp hr with hr | hr
          · exact topic_ne_runner_of_start hr
          · exact topic_ne_runner hr
        · cases hr
      · have hlog' : { s with launch := launch }.openLog inv = .ok (file, files) := hlog
        simp only [run, hlog', he, Setting.opened, hlog]
        rfl

theorem Blocked.status_eq (hjob : inv.request.job? = some j) (h : Blocked s inv j) :
    (s.run inv).status = 3 := by
  obtain ⟨notes, file, -, hrun⟩ := h.run_eq hjob
  rw [hrun s.launch]

/-- No operation has begun: what starts programs was never asked, the world is as it was, and none of
the records that every operation writes (`exists_runner_record`) is in the log. -/
structure Untouched (s : Setting σ) (inv : Invocation) : Prop where
  unasked : ∀ launch, { s with launch := launch }.run inv = s.run inv
  world : (s.run inv).world = s.start (s.opened inv)
  silent : ∀ r ∈ (s.run inv).transcript.records, r.topic ≠ Log.Topic.runner

theorem Blocked.untouched (hjob : inv.request.job? = some j) (h : Blocked s inv j) :
    Untouched s inv := by
  obtain ⟨notes, file, hsilent, hrun⟩ := h.run_eq hjob
  have hself : s.run inv = ⟨3, notes, file, s.start (s.opened inv)⟩ := hrun s.launch
  constructor
  case unasked => exact fun launch => (hrun launch).trans hself.symm
  case world => rw [hself]
  case silent => rw [hself]; exact hsilent

theorem execute_of_dispatch {hosts : HostSet} {m : Outcomes} (display : Display)
    (hselect : config.cluster.select j.scope = .ok hosts)
    (hm : (s.dispatch j config hosts files).result = .ok m) :
    execute display config j.scope j.options s.pick (s.operation j config) j.label
        (s.start files) =
      ⟨.ok m, (s.dispatch j config hosts files).journal.flatMap display.eventNotes ++
        display.resultNotes hosts m j.label, (s.dispatch j config hosts files).world⟩ := by
  rw [dispatch] at hm ⊢
  simp only [execute, hselect, hm]

/-- A job that is dispatched ends as the outcomes of its hosts say. -/
theorem Dispatches.status_eq (hjob : inv.request.job? = some j) {hosts : HostSet} {m : Outcomes}
    (h : Dispatches s inv j hosts m) :
    (s.run inv).status = if m.summary.isSuccess then 0 else 1 := by
  obtain ⟨hlog, hload, hselect, -, hm⟩ := h
  simp only [run, hlog, perform_eq_runTemplate hjob, runTemplate_of_loads s hload,
    execute_of_dispatch _ hselect hm, Executed.finish, bind, Except.bind]
  exact statusOf_verdict m

theorem Dispatches.status_eq_zero_iff (hjob : inv.request.job? = some j) {hosts : HostSet}
    {m : Outcomes} (h : Dispatches s inv j hosts m) :
    (s.run inv).status = 0 ↔ ∀ id ∈ hosts.ids, ∃ output, m.get? id = some (.success output) := by
  rw [h.status_eq hjob, ← Outcomes.isSuccess_iff_of_perm h.ids_perm]
  cases m.summary.isSuccess <;> decide

theorem Dispatches.status_eq_one_iff (hjob : inv.request.job? = some j) {hosts : HostSet}
    {m : Outcomes} (h : Dispatches s inv j hosts m) :
    (s.run inv).status = 1 ↔ ∃ id ∈ hosts.ids,
      m.get? id = some .cancelled ∨ ∃ error, m.get? id = some (.failed error) := by
  rw [h.status_eq hjob, ← Outcomes.isSuccess_eq_false_iff_of_perm h.ids_perm]
  cases m.summary.isSuccess <;> decide

theorem Dispatches.status_eq_zero_or_one (hjob : inv.request.job? = some j) {hosts : HostSet}
    {m : Outcomes} (h : Dispatches s inv j hosts m) :
    (s.run inv).status = 0 ∨ (s.run inv).status = 1 := by
  rw [h.status_eq hjob]
  cases m.summary.isSuccess <;> decide

/-! ## What an untouched command leaves unsaid -/

/-- Every operation that runs tells so in the log. -/
theorem exists_runner_record (s : Setting σ) (j : Job) (config : Config) (host : Host) (world : σ) :
    ∃ r ∈ (s.operation j config host world).1.log, r.topic = Log.Topic.runner := by
  have hcommand : ∀ (command : Host → Command) (line : Host → String),
      ∃ r ∈ (Operation.ofCommand s.launch command line host world).1.log,
        r.topic = Log.Topic.runner :=
    fun _ _ => ⟨_, List.mem_singleton_self _, rfl⟩
  simp only [operation, Operation.executor]
  split
  · exact hcommand _ _
  · split
    · exact hcommand _ _
    · obtain ⟨r, hr, ht⟩ := hcommand (sshCommand j.template config.ssh)
        fun h => config.ssh.program ++ " " ++ " ".intercalate (config.ssh.args j.template h)
      exact ⟨r, RetryPlan.mem_log_attemptFrom _ _ _ _ hr _ _, ht⟩

theorem mem_records {r : Log.Record} {t : Transcript} : r ∈ t.records ↔ .logged r ∈ t := by
  simp only [Transcript.records, List.mem_filterMap]
  constructor
  · rintro ⟨note, hmem, hr⟩
    cases note <;> cases hr
    exact hmem
  · exact fun hmem => ⟨_, hmem, rfl⟩

theorem exists_runner_record_dispatch {hosts : HostSet} (s : Setting σ)
    (hjobs : j.options.jobs.getD config.dispatch.jobs ≠ 0) (hne : hosts.isEmpty = false)
    (files : FileTree) :
    ∃ r, r.topic = Log.Topic.runner ∧ .logged r ∈ (s.dispatch j config hosts files).journal := by
  have hpolicy : (config.policy j.options.jobs j.options.failFast).maxConcurrency ≠ 0 := hjobs
  exact Dispatch.exists_logged_of_run (s.exists_runner_record j config) hpolicy hne _ _ true

/-- A dispatch to any host stands in the log, so a command that is untouched has dispatched to none. -/
theorem Untouched.isEmpty_of_dispatches (hu : Untouched s inv) (hjob : inv.request.job? = some j)
    {hosts : HostSet} {m : Outcomes} (h : Dispatches s inv j hosts m) : hosts.isEmpty = true := by
  by_contra hne
  obtain ⟨hlog, hload, hselect, hjobs, hm⟩ := h
  obtain ⟨r, htopic, hr⟩ := exists_runner_record_dispatch s hjobs (Bool.eq_false_iff.mpr hne) _
  refine hu.silent r (mem_records.mpr ?_) htopic
  have hnote : Note.logged r ∈ (s.dispatch j _ hosts _).journal.flatMap
      (s.display inv inv.request.json).eventNotes :=
    List.mem_flatMap.mpr ⟨_, hr, List.mem_singleton_self _⟩
  simp only [run, hlog, perform_eq_runTemplate hjob, runTemplate_of_loads s hload,
    execute_of_dispatch _ hselect hm, List.mem_append]
  exact .inl (.inr (.inr (.inl hnote)))

/-! ## What does not count -/

theorem openLog_showing (s : Setting σ) (inv : Invocation) (verbosity : Nat) (quiet json : Bool) :
    s.openLog (inv.showing verbosity quiet json) = s.openLog inv := by
  have hopens : (inv.showing verbosity quiet json).opensLog = inv.opensLog := by
    unfold Invocation.opensLog
    exact congrArg _ (Request.keepsLog_withJson json inv.request)
  simp only [openLog, hopens]
  rfl

theorem Blocked.showing (h : Blocked s inv j) (verbosity : Nat) (quiet json : Bool) :
    Blocked s (inv.showing verbosity quiet json) j := by
  have hlog := openLog_showing s inv verbosity quiet json
  cases h with
  | noLog h => exact .noLog (hlog.trans h)
  | unloadable h hno => exact .unloadable (hlog.trans h) hno
  | refused h hload href => exact .refused (hlog.trans h) hload href

theorem Dispatches.showing {hosts : HostSet} {m : Outcomes} (h : Dispatches s inv j hosts m)
    (verbosity : Nat) (quiet json : Bool) :
    Dispatches s (inv.showing verbosity quiet json) j hosts m := by
  obtain ⟨hlog, hload, hselect, hjobs, hm⟩ := h
  exact .intro ((openLog_showing s inv verbosity quiet json).trans hlog) hload hselect hjobs hm

theorem status_showing (hjob : inv.request.job? = some j) (verbosity : Nat) (quiet json : Bool) :
    (s.run (inv.showing verbosity quiet json)).status = (s.run inv).status := by
  have hjob' : (inv.showing verbosity quiet json).request.job? = some j :=
    (Request.job?_withJson json inv.request).trans hjob
  rcases blocked_or_dispatches s inv j with h | ⟨hosts, m, h⟩
  · rw [h.status_eq hjob, (h.showing verbosity quiet json).status_eq hjob']
  · rw [h.status_eq hjob, (h.showing verbosity quiet json).status_eq hjob']

/-! ## The exit status -/

/-- A command that dispatches ends with status 3, and untouched, exactly when it is blocked; else with
0 when every host of the selection succeeded and with 1 when one failed or was cancelled. No other
status occurs, and how results are shown does not count. -/
theorem exit_status (hjob : inv.request.job? = some j) :
    ((s.run inv).status = 3 ↔ Blocked s inv j) ∧
    (Blocked s inv j → Untouched s inv) ∧
    ((s.run inv).status = 0 ↔ ∃ hosts m, Dispatches s inv j hosts m ∧
      ∀ id ∈ hosts.ids, ∃ output, m.get? id = some (.success output)) ∧
    ((s.run inv).status = 1 ↔ ∃ hosts m, Dispatches s inv j hosts m ∧
      ∃ id ∈ hosts.ids, m.get? id = some .cancelled ∨ ∃ error, m.get? id = some (.failed error)) ∧
    (s.run inv).status ≠ 70 ∧
    ∀ (verbosity : Nat) (quiet json : Bool),
      (s.run (inv.showing verbosity quiet json)).status = (s.run inv).status := by
  refine ⟨⟨fun h3 => ?_, fun h => h.status_eq hjob⟩, fun h => h.untouched hjob,
    ⟨fun h0 => ?_, fun ⟨hosts, m, h, hall⟩ => (h.status_eq_zero_iff hjob).mpr hall⟩,
    ⟨fun h1 => ?_, fun ⟨hosts, m, h, hsome⟩ => (h.status_eq_one_iff hjob).mpr hsome⟩, fun h70 => ?_,
    status_showing hjob⟩
  · rcases blocked_or_dispatches s inv j with h | ⟨hosts, m, h⟩
    · exact h
    · rcases h.status_eq_zero_or_one hjob with h0 | h1
      · rw [h0] at h3; cases h3
      · rw [h1] at h3; cases h3
  · rcases blocked_or_dispatches s inv j with h | ⟨hosts, m, h⟩
    · rw [h.status_eq hjob] at h0; cases h0
    · exact ⟨hosts, m, h, (h.status_eq_zero_iff hjob).mp h0⟩
  · rcases blocked_or_dispatches s inv j with h | ⟨hosts, m, h⟩
    · rw [h.status_eq hjob] at h1; cases h1
    · exact ⟨hosts, m, h, (h.status_eq_one_iff hjob).mp h1⟩
  · rcases blocked_or_dispatches s inv j with h | ⟨hosts, m, h⟩
    · rw [h.status_eq hjob] at h70; cases h70
    · rcases h.status_eq_zero_or_one hjob with h0 | h1
      · rw [h0] at h70; cases h70
      · rw [h1] at h70; cases h70

/-! ## A cluster of one machine -/

/-- One machine, on which every program succeeds and says nothing; the world counts the programs. -/
def single : Setting Nat where
  env := ⟨[], "/", none⟩
  files := ⟨[(["c"], .file (Utf8.encode "coordinator.hostname=\"m\"") false)]⟩
  origin := ⟨"m", 1, ⟨2026, 1, 1⟩, fun _ => ⟨⟨2026, 1, 1⟩, 0, 0, 0⟩⟩
  launch := fun _ n => (.ok ⟨some 0, [], []⟩, n + 1)
  start := fun _ => 0
  pick := .inOrder
  stdoutTerminal := false
  stderrTerminal := false

/-- A job that pings the coordinator, so many executions at a time. -/
def pingJob (jobs : Option UInt64) : Job :=
  ⟨pingCommand, "ping", ⟨.segments, true, false⟩, ⟨jobs, false, none⟩, false⟩

def pinging (jobs : Option UInt64) : Invocation :=
  ⟨0, false, some "/c", none, .off, .ping (pingJob jobs).scope (pingJob jobs).options false⟩

/-- What the cluster file says: there is only a coordinator. -/
def soleConfig : Config := ⟨some ⟨"m", none, none⟩, [], .default, .default⟩

theorem loads_single : Config.Loads single.files single.env (some "/c") soleConfig := by
  have hpath : (Path.configFile single.env (some "/c")).1 = .ok "/c" := by decide +kernel
  have hplace : single.files.resolve single.env.workDir "/c" = .ok ["c"] := by
    simp only [FileTree.resolve, String.contains_char_eq, FileTree.parts_eq]
    decide +kernel
  have htext : single.files.readText single.env.workDir "/c" =
      .ok "coordinator.hostname=\"m\"" := by
    simp only [FileTree.readText, FileTree.read, FileTree.find, hplace]
    decide +kernel
  have hconfig : Config.ofText "coordinator.hostname=\"m\"" = .ok soleConfig := by decide +kernel
  exact .intro hpath htext hconfig (by decide)

/-- The coordinator alone. -/
def coordinatorOnly : HostSet := ⟨[Host.coordinator "m"], by decide⟩

/-- Its outcome when a program succeeds and says nothing. -/
def silentSuccess : Outcomes := ⟨[("m", .success "")], List.pairwise_singleton _ _⟩

theorem operation_single (h : Host) (world : Nat) :
    (single.operation (pingJob none) soleConfig h world).1.answer =
      if (sshCommand pingCommand .default h).hasNul then .failure (.spawn "ssh" .nulInCommand)
      else .output "" := by
  show ((sshCommand pingCommand .default h).run single.launch world).1 = _
  split
  case isTrue hnul =>
    rw [Command.run_of_nul _ _ hnul]
    rfl
  case isFalse hnul =>
    rw [Command.run_of_no_nul _ _ (Bool.eq_false_iff.mpr hnul)]
    rfl

theorem dispatch_single (files : FileTree) :
    (single.dispatch (pingJob none) soleConfig coordinatorOnly files).result = .ok silentSuccess := by
  have hnul : (sshCommand pingCommand .default (Host.coordinator "m")).hasNul = false := by
    rw [Bool.eq_false_iff, ne_eq, Command.hasNul_iff]
    decide
  rw [dispatch, Dispatch.run_result_eq_reference operation_single 0 rfl (by decide),
    Dispatch.reference_eq_tally operation_single]
  simp only [Dispatch.tally, coordinatorOnly, List.map_cons, List.map_nil, hnul]
  rfl

theorem dispatches_single (verbosity : Nat) (quiet json : Bool) :
    Dispatches single ((pinging none).showing verbosity quiet json) (pingJob none) coordinatorOnly
      silentSuccess :=
  .intro rfl loads_single rfl (by decide) (dispatch_single _)

theorem exit_status_single :
    (pinging none).request.job? = some (pingJob none) ∧
    (∃ hosts m, Dispatches single (pinging none) (pingJob none) hosts m ∧
      ∀ id ∈ hosts.ids, ∃ output, m.get? id = some (.success output)) ∧
    (pinging (some 0)).request.job? = some (pingJob (some 0)) ∧
    (single.run (pinging (some 0))).status = 3 ∧ Untouched single (pinging (some 0)) := by
  have h0 : (single.run (pinging none)).status = 0 :=
    ((dispatches_single 0 false false).status_eq rfl).trans rfl
  have hblocked : Blocked single (pinging (some 0)) (pingJob (some 0)) :=
    .refused rfl loads_single (.noJobs rfl)
  obtain ⟨-, -, hzero, -⟩ := @exit_status Nat single (pinging none) (pingJob none) rfl
  obtain ⟨hthree, huntouched, -⟩ :=
    @exit_status Nat single (pinging (some 0)) (pingJob (some 0)) rfl
  exact ⟨rfl, hzero.mp h0, rfl, hthree.mpr hblocked, huntouched hblocked⟩

end Setting

end Fanout
