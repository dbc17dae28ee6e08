import Fanout.Command.Executor
import Fanout.Proofs.Retry.Attempt
import Fanout.Proofs.Retry.Delay
import Fanout.Proofs.Text.Utf8
import Mathlib.Data.List.TakeWhile

/-!
# When a command is started again

A command may change the host it runs on, so it must not run twice. The ssh client is started again
only after it has said itself that it never reached the host; a local command is started once. What is
answered is what the last start came to.
-/
namespace Fanout

variable {σ : Type}

/-! ## Blanks at the ends of a text -/

/-- A text without the blanks at its end. -/
def EndsTrimmed (s text : String) : Prop :=
  ∃ blanks, s = text ++ blanks ∧ (∀ c ∈ blanks.toList, Text.isBlank c = true) ∧
    ∀ c, text.toList.getLast? = some c → Text.isBlank c = false

theorem endsTrimmed_iff {s text : String} : EndsTrimmed s text ↔ text = Text.trimEnd s := by
  have htrim : (Text.trimEnd s).toList = (s.toList.reverse.dropWhile Text.isBlank).reverse := by
    rw [Text.trimEnd, Text.toList_onChars, Chars.trimEnd]
  constructor
  · rintro ⟨blanks, rfl, hblanks, hlast⟩
    rw [← String.toList_inj, htrim, String.toList_append, List.reverse_append,
      List.dropWhile_append_of_pos fun c hc => hblanks c (List.mem_reverse.mp hc)]
    cases hend : text.toList.reverse with
    | nil => rw [← List.reverse_reverse text.toList, hend]; rfl
    | cons c cs =>
        have hc : Text.isBlank c = false := hlast c (by rw [← List.head?_reverse, hend]; rfl)
        rw [List.dropWhile_cons_of_neg (by simp [hc]), ← hend, List.reverse_reverse]
  · rintro rfl
    have hsplit := List.takeWhile_append_dropWhile (p := Text.isBlank) (l := s.toList.reverse)
    refine ⟨String.ofList (s.toList.reverse.takeWhile Text.isBlank).reverse, ?_, ?_, ?_⟩
    · rw [← String.toList_inj, String.toList_append, htrim, String.toList_ofList,
        ← List.reverse_append, hsplit, List.reverse_reverse]
    · intro c hc
      rw [String.toList_ofList, List.mem_reverse] at hc
      exact List.mem_takeWhile_imp hc
    · intro c hc
      rw [htrim, List.getLast?_reverse] at hc
      have hhead := List.head?_dropWhile_not Text.isBlank s.toList.reverse
      rw [hc] at hhead
      simpa using hhead

/-- A line begins with a text that does not begin with a blank, blanks in front of it put aside. -/
theorem startsWith_trimStart_iff {line start : String} (h : ∃ c cs, start.toList = c :: cs ∧
    Text.isBlank c = false) : Text.startsWith (Text.trimStart line) start = true ↔
      ∃ blanks rest, line = blanks ++ start ++ rest ∧ ∀ c ∈ blanks.toList, Text.isBlank c = true := by
  obtain ⟨c, cs, hstart, hc⟩ := h
  rw [Text.startsWith, List.isPrefixOf_iff_prefix, Text.trimStart, Text.toList_onChars, Chars.trimStart]
  constructor
  · rintro ⟨rest, hrest⟩
    refine ⟨String.ofList (line.toList.takeWhile Text.isBlank), String.ofList rest, ?_, ?_⟩
    · rw [← String.toList_inj, String.toList_append, String.toList_append, String.toList_ofList,
        String.toList_ofList, List.append_assoc, hrest, List.takeWhile_append_dropWhile]
    · intro c hc
      rw [String.toList_ofList] at hc
      exact List.mem_takeWhile_imp hc
  · rintro ⟨blanks, rest, rfl, hblanks⟩
    refine ⟨rest.toList, ?_⟩
    rw [String.toList_append, String.toList_append, List.append_assoc,
      List.dropWhile_append_of_pos hblanks, hstart, List.cons_append,
      List.dropWhile_cons_of_neg (by simp [hc])]

/-! ## What a start comes to -/

/-- The ssh client failed in its own name: with its own status, and with a line of its own among the
error output. -/
def ConnectionFailed (x : Except OsError Completion) : Prop :=
  ∃ stdout stderr, x = .ok ⟨some 255, stdout, stderr⟩ ∧
    ∃ line ∈ Text.lines (Utf8.decodeLossy stderr), ∃ start ∈ ["ssh:", "kex_exchange_identification:",
        "Connection closed by", "Connection timed out during banner exchange"],
      ∃ blanks rest, line = blanks ++ start ++ rest ∧ ∀ c ∈ blanks.toList, Text.isBlank c = true

theorem exists_head_of_mem_clientDiagnostics : ∀ start ∈ clientDiagnostics,
    ∃ c cs, start.toList = c :: cs ∧ Text.isBlank c = false := by
  simp only [clientDiagnostics, List.forall_mem_cons]
  exact ⟨⟨_, _, rfl, rfl⟩, ⟨_, _, rfl, rfl⟩, ⟨_, _, rfl, rfl⟩, ⟨_, _, rfl, rfl⟩, List.forall_mem_nil _⟩

theorem hasClientDiagnostic_iff (stderr : String) : hasClientDiagnostic stderr = true ↔
    ∃ line ∈ Text.lines stderr, ∃ start ∈ clientDiagnostics,
      ∃ blanks rest, line = blanks ++ start ++ rest ∧ ∀ c ∈ blanks.toList, Text.isBlank c = true := by
  simp only [hasClientDiagnostic, List.any_eq_true]
  refine exists_congr fun line => and_congr_right fun _ => exists_congr fun start => ?_
  exact and_congr_right fun hstart =>
    startsWith_trimStart_iff (exists_head_of_mem_clientDiagnostics start hstart)

theorem connectionFailed_ok_iff {status : Option Int} {stdout stderr : Bytes} :
    ConnectionFailed (.ok ⟨status, stdout, stderr⟩) ↔
      status = some 255 ∧ hasClientDiagnostic (Utf8.decodeLossy stderr) = true := by
  rw [hasClientDiagnostic_iff]
  constructor
  · rintro ⟨_, _, ⟨⟩, hline⟩
    exact ⟨rfl, hline⟩
  · rintro ⟨rfl, hline⟩
    exact ⟨_, _, rfl, hline⟩

theorem not_connectionFailed_error (e : OsError) : ¬ ConnectionFailed (.error e) := by
  rintro ⟨_, _, ⟨⟩, -⟩

namespace Command

/-- A NUL stands somewhere in a command, so no program can be started with it. -/
def HoldsNul (c : Command) : Prop :=
  '\x00' ∈ c.program.toList ∨ (∃ arg ∈ c.args, '\x00' ∈ arg.toList) ∨
    ∃ v ∈ c.vars, '\x00' ∈ v.1.toList ∨ '\x00' ∈ v.2.toList

instance (c : Command) : Decidable c.HoldsNul :=
  inferInstanceAs (Decidable (_ ∨ _ ∨ _))

/-- What is answered to what a start came to: a success with what was put out, less the blanks at the
end, every other end with its status and what was written as an error, and no start with the reason. -/
structure Tells (c : Command) (x : Except OsError Completion) (a : Answer) : Prop where
  output : ∀ stdout stderr, x = .ok ⟨some 0, stdout, stderr⟩ →
    ∃ text, a = .output text ∧ EndsTrimmed (Utf8.decodeLossy stdout) text
  failure : ∀ status stdout stderr, x = .ok ⟨status, stdout, stderr⟩ → status ≠ some 0 →
    a = .failure (.exit status (Utf8.decodeLossy stderr))
  unstarted : ∀ e, x = .error e → a = .failure (.spawn c.program e)

variable (c : Command) (launch : Launcher σ)

theorem hasNul_iff : c.hasNul = true ↔ c.HoldsNul := by
  simp only [hasNul, HoldsNul, List.any_append, List.any_cons, List.any_flatMap, List.any_nil,
    Bool.or_eq_true, List.any_eq_true, String.contains_char_eq, decide_eq_true_eq, Bool.or_false,
    List.cons_append]

/-- The world after a program was started so often. -/
def after : Nat → σ → σ
  | 0, world => world
  | n + 1, world => after n (launch c world).2

/-- What the start of that number comes to, the first having the number 0. -/
def result (n : Nat) (world : σ) : Except OsError Completion :=
  (launch c (c.after launch n world)).1

theorem after_succ (n : Nat) (world : σ) :
    c.after launch (n + 1) world = (launch c (c.after launch n world)).2 := by
  induction n generalizing world with
  | zero => rfl
  | succ n ih => exact ih (launch c world).2

def answer : Except OsError Completion → Answer
  | .ok completion => completion.answer
  | .error e => .failure (.spawn c.program e)

theorem tells_answer (x : Except OsError Completion) : c.Tells x (c.answer x) where
  output := by
    rintro stdout stderr rfl
    exact ⟨_, rfl, endsTrimmed_iff.mpr rfl⟩
  failure := by
    rintro status stdout stderr rfl hstatus
    exact if_neg hstatus
  unstarted := by
    rintro e rfl
    rfl

theorem run_of_nul (h : c.hasNul = true) (world : σ) :
    c.run launch world = (c.answer (.error .nulInCommand), world) := by
  rw [run, if_pos h]
  rfl

theorem run_of_no_nul (h : c.hasNul = false) (world : σ) :
    c.run launch world = (c.answer (launch c world).1, (launch c world).2) := by
  rw [run, if_neg (by simp [h])]
  obtain ⟨x, world'⟩ := launch c world
  cases x <;> rfl

theorem again_answer_iff (x : Except OsError Completion) :
    (c.answer x).again Failure.isConnectionError = true ↔ ConnectionFailed x := by
  cases x with
  | error e => exact iff_of_false Bool.false_ne_true (not_connectionFailed_error e)
  | ok completion =>
    obtain ⟨status, stdout, stderr⟩ := completion
    rw [connectionFailed_ok_iff, answer, Completion.answer]
    split
    case isTrue hzero => simp [Answer.again, show status = some 0 from hzero]
    case isFalse =>
      cases status <;> simp [Answer.again, Failure.isConnectionError, Failure.exit?,
        connectionFailureStatus]

end Command

/-! ## Starts on record -/

/-- A program that was started, and what that came to. -/
abbrev Start := Command × Except OsError Completion

/-- Keeps record of the programs started. -/
def Launcher.recording (launch : Launcher σ) : Launcher (σ × List Start) := fun c world =>
  let (x, world') := launch c world.1
  (x, (world', world.2 ++ [(c, x)]))

/-- The first so many starts of a command. -/
def Command.starts (c : Command) (launch : Launcher σ) (n : Nat) (world : σ) : List Start :=
  (List.range n).map fun i => (c, c.result launch i world)

variable (launch : Launcher σ) (command : Host → Command) (line : Host → String) (host : Host)

theorem ofCommand_recording (world : σ × List Start) :
    Operation.ofCommand launch command line host world.1 =
      ((Operation.ofCommand launch.recording command line host world).1,
        (Operation.ofCommand launch.recording command line host world).2.1) := by
  cases h : (command host).hasNul with
  | true => simp only [Operation.ofCommand, Command.run_of_nul _ _ h]
  | false => simp only [Operation.ofCommand, Command.run_of_no_nul _ _ h]; rfl

theorem retrying_recording (plan : RetryPlan) (worthIt : Failure → Bool) (world : σ) :
    (Operation.ofCommand launch command line).retrying plan worthIt host world =
      (((Operation.ofCommand launch.recording command line).retrying plan worthIt host
        (world, [])).1, ((Operation.ofCommand launch.recording command line).retrying plan worthIt
        host (world, [])).2.1) :=
  plan.attemptFrom_project worthIt (f := Prod.fst)
    (ofCommand_recording launch command line host) _ 0 (world, [])

/-- Executions in a row start the program once each. -/
theorem after_recording (h : (command host).hasNul = false) (n : Nat) (world : σ) :
    (Operation.ofCommand launch.recording command line).after host n (world, []) =
      ((command host).after launch n world, (command host).starts launch n world) := by
  induction n with
  | zero => rfl
  | succ n ih =>
    rw [Operation.after_succ, ih, Operation.ofCommand, Command.run_of_no_nul _ _ h,
      Command.after_succ, Command.starts, Command.starts, List.range_succ, List.map_append]
    rfl

theorem inRow_answer (h : (command host).hasNul = false) (n : Nat) (world : σ) :
    ((Operation.ofCommand launch.recording command line).inRow host n (world, [])).answer =
      (command host).answer ((command host).result launch n world) := by
  rw [Operation.inRow, after_recording launch command line host h, Operation.ofCommand,
    Command.run_of_no_nul _ _ h]
  rfl

/-- A command that cannot be started is answered for that, and nothing is made again. -/
theorem retrying_of_nul (h : (command host).hasNul = true) (plan : RetryPlan) (world : σ) :
    let run := (Operation.ofCommand launch command line).retrying plan Failure.isConnectionError
      host world
    run.1.answer = .failure (.spawn (command host).program .nulInCommand) ∧ run.2 = world := by
  have hrun : Operation.ofCommand launch command line host world =
      (⟨.failure (.spawn (command host).program .nulInCommand),
        [⟨.debug, Log.Topic.runner, host.id ++ ": " ++ line host⟩]⟩, world) := by
    rw [Operation.ofCommand, Command.run_of_nul _ _ h]
    rfl
  rw [Operation.retrying, RetryPlan.attemptFrom_stop _ _ _ _ (.inr (by rw [hrun]; rfl)), hrun]
  exact ⟨rfl, rfl⟩

/-! ## What is started again -/

/-- The starts of a command that is started again only while the client does not reach the host, and
no more than `bound` times. -/
structure StartedSafely (launch : Launcher σ) (c : Command) (bound : Nat) (world : σ)
    (starts : List Start) : Prop where
  /-- What is on record is what starting the program came to, one time after the other. -/
  recorded : starts = c.starts launch starts.length world
  atMost : starts.length ≤ bound
  /-- After every start but the last one the client had not reached the host. -/
  unreached : ∀ s ∈ starts.dropLast, ConnectionFailed s.2
  /-- There is no early end either. -/
  persists : ∀ s, starts.getLast? = some s → ConnectionFailed s.2 → starts.length = bound
  /-- Only what cannot be started at all is not started. -/
  unstarted : starts = [] ↔ c.HoldsNul

/-- The answer to some starts of a command is what the last of them came to, and the world is left as
they have left it. -/
structure Answered (launch : Launcher σ) (c : Command) (world : σ) (starts : List Start) (a : Answer)
    (world' : σ) : Prop where
  last : ∀ s, starts.getLast? = some s → c.Tells s.2 a
  unstarted : starts = [] → a = .failure (.spawn c.program .nulInCommand)
  world : world' = c.after launch starts.length world

variable {launch command line host} {c : Command} {bound m : Nat} {world : σ} {starts : List Start}

theorem startedSafely_nil (h : c.HoldsNul) : StartedSafely launch c bound world [] where
  recorded := rfl
  atMost := Nat.zero_le bound
  unreached := nofun
  persists := nofun
  unstarted := iff_of_true rfl h

theorem answered_nil : Answered launch c world [] (.failure (.spawn c.program .nulInCommand)) world where
  last := nofun
  unstarted _ := rfl
  world := rfl

theorem Command.length_starts (c : Command) (launch : Launcher σ) (n : Nat) (world : σ) :
    (c.starts launch n world).length = n := by
  rw [starts, List.length_map, List.length_range]

theorem Command.starts_succ (c : Command) (launch : Launcher σ) (n : Nat) (world : σ) :
    c.starts launch (n + 1) world = c.starts launch n world ++ [(c, c.result launch n world)] := by
  rw [starts, List.range_succ, List.map_append]
  rfl

theorem Command.getLast?_starts (c : Command) (launch : Launcher σ) (n : Nat) (world : σ) :
    (c.starts launch (n + 1) world).getLast? = some (c, c.result launch n world) := by
  rw [starts_succ, List.getLast?_concat]

theorem startedSafely_starts (hnul : ¬ c.HoldsNul) (hlt : m < bound)
    (hfailed : ∀ i < m, ConnectionFailed (c.result launch i world))
    (hstops : ConnectionFailed (c.result launch m world) → m + 1 = bound) :
    StartedSafely launch c bound world (c.starts launch (m + 1) world) where
  recorded := by rw [Command.length_starts]
  atMost := by
    rw [Command.length_starts]
    exact hlt
  unreached := by
    rw [Command.starts_succ, List.dropLast_concat]
    intro s hs
    obtain ⟨i, hi, rfl⟩ := List.mem_map.mp hs
    exact hfailed i (List.mem_range.mp hi)
  persists := by
    rw [Command.getLast?_starts, Command.length_starts]
    rintro s ⟨⟩
    exact hstops
  unstarted := by
    rw [Command.starts_succ]
    exact iff_of_false (List.concat_ne_nil _ _) hnul

theorem answered_starts (launch : Launcher σ) (c : Command) (m : Nat) (world : σ) :
    Answered launch c world (c.starts launch (m + 1) world) (c.answer (c.result launch m world))
      (c.after launch (m + 1) world) where
  last := by
    rw [Command.getLast?_starts]
    rintro s ⟨⟩
    exact c.tells_answer _
  unstarted := by
    rw [Command.starts_succ]
    exact fun h => absurd h (List.concat_ne_nil _ _)
  world := by rw [Command.length_starts]

/-- A command that is made again while the client does not reach the host. -/
theorem startedSafely_retrying {plan : RetryPlan} (hplan : plan.Waitable)
    (hmax : 0 < plan.maxAttempts.toNat) (world : σ) :
    let run := (Operation.ofCommand launch command line).retrying plan Failure.isConnectionError
      host world
    let starts := ((Operation.ofCommand launch.recording command line).retrying plan
      Failure.isConnectionError host (world, [])).2.2
    StartedSafely launch (command host) plan.maxAttempts.toNat world starts ∧
      Answered launch (command host) world starts run.1.answer run.2 := by
  intro run starts
  cases hnul : (command host).hasNul with
  | true =>
    obtain ⟨hanswer, hworld⟩ := retrying_of_nul launch command line host hnul plan world
    have hstarts : starts = [] := congrArg Prod.snd
      (retrying_of_nul launch.recording command line host hnul plan (world, [])).2
    rw [hstarts, show run.1.answer = _ from hanswer, show run.2 = world from hworld]
    exact ⟨startedSafely_nil ((command host).hasNul_iff.mp hnul), answered_nil⟩
  | false =>
    obtain ⟨m, hm⟩ := RetryPlan.exists_lastAttempt Failure.isConnectionError
      (Operation.ofCommand launch.recording command line) host (plan.maxAttempts.toNat - 1) (world, [])
    have hrecorded := plan.attemptFrom_of_last _ _ host hm fun i _ =>
      hplan.exists_delay (0 + i).toUInt32
    have hagain_iff (i : Nat) := (command host).again_answer_iff ((command host).result launch i world)
    simp only [← inRow_answer launch command line host hnul] at hagain_iff
    have hrun := retrying_recording launch command line host plan Failure.isConnectionError world
    simp only [Operation.retrying] at hrun
    rw [hrecorded, after_recording launch command line host hnul,
      inRow_answer launch command line host hnul] at hrun
    have hstarts : starts = (command host).starts launch (m + 1) world := by
      simp only [starts, Operation.retrying]
      rw [hrecorded, after_recording launch command line host hnul]
    have hle := hm.le
    rw [hstarts, show run = _ from hrun]
    refine ⟨startedSafely_starts ?_ (by omega) ?_ ?_, answered_starts launch _ m world⟩
    · rw [← Command.hasNul_iff, hnul]
      exact Bool.false_ne_true
    · exact fun i hi => (hagain_iff i).mp (hm.again i hi)
    · intro hfailed
      rcases hm.stops with rfl | hno
      · omega
      · rw [(hagain_iff m).mpr hfailed] at hno
        cases hno

theorem StartedSafely.length_pos (h : StartedSafely launch c bound world starts)
    (hnul : ¬ c.HoldsNul) : 0 < starts.length :=
  List.length_pos_iff.mpr fun hnil => hnul (h.unstarted.mp hnil)

theorem StartedSafely.eq_of_one (h : StartedSafely launch c 1 world starts) (hnul : ¬ c.HoldsNul) :
    starts = [(c, (launch c world).1)] := by
  have hone : starts.length = 1 := Nat.le_antisymm h.atMost (h.length_pos hnul)
  rw [h.recorded, hone]
  rfl

/-- How often a command is started follows from what its starts come to. -/
theorem StartedSafely.length_eq (h : StartedSafely launch c bound world starts) (hnul : ¬ c.HoldsNul)
    (hlt : m < bound) (hfailed : ∀ i < m, ConnectionFailed (c.result launch i world))
    (hstops : ¬ ConnectionFailed (c.result launch m world)) : starts.length = m + 1 := by
  obtain ⟨n, hn⟩ : ∃ n, starts.length = n + 1 :=
    Nat.exists_eq_succ_of_ne_zero (Nat.ne_of_gt (h.length_pos hnul))
  have hstarts : starts = c.starts launch (n + 1) world := hn ▸ h.recorded
  rcases Nat.lt_trichotomy n m with hless | rfl | hmore
  · have hlast := h.persists (c, c.result launch n world)
      (by rw [hstarts, Command.getLast?_starts]) (hfailed n hless)
    omega
  · exact hn
  · have hmem : (c, c.result launch m world) ∈ starts.dropLast := by
      rw [hstarts, Command.starts_succ, List.dropLast_concat]
      exact List.mem_map.mpr ⟨m, List.mem_range.mpr hmore, rfl⟩
    exact absurd (h.unreached _ hmem) hstops

/-! ## The executor of a command -/

/-- The call of the ssh client that runs a template on a host. -/
def sshCommand (template : String) (ssh : SshSettings) (h : Host) : Command :=
  ⟨ssh.program, ssh.args template h, []⟩

/-- The call of the local shell that runs a template for a host. -/
def shellCommand (template : String) (h : Host) : Command :=
  ⟨"sh", ["-c", expandTemplate template h], hostVars h⟩

/-- The programs that a command's operation starts, in order. -/
def executorStarts (launch : Launcher σ) (template : String) (isLocal : Bool) (ssh : SshSettings)
    (retries : UInt32) (host : Host) (world : σ) : List Start :=
  (Operation.executor launch.recording template isLocal ssh retries host (world, [])).2.2

theorem maxAttempts_withRetries (retries : UInt32) :
    (RetryPlan.withRetries retries).maxAttempts.toNat = min (retries.toNat + 1) 4294967295 := by
  have := retries.toNat_lt
  simp only [RetryPlan.withRetries]
  split
  · rename_i h
    rw [h]
    rfl
  · rename_i h
    have hne : retries.toNat ≠ 4294967295 := fun h' => h (UInt32.toNat_inj.mp h')
    rw [UInt32.toNat_add]
    simp only [UInt32.toNat_one]
    omega

theorem startedSafely_withRetries (launch : Launcher σ) (command : Host → Command)
    (line : Host → String) (host : Host) (retries : UInt32) (world : σ) :
    let run := (Operation.ofCommand launch command line).retrying (.withRetries retries)
      Failure.isConnectionError host world
    let starts := ((Operation.ofCommand launch.recording command line).retrying
      (.withRetries retries) Failure.isConnectionError host (world, [])).2.2
    StartedSafely launch (command host) (min (retries.toNat + 1) 4294967295) world starts ∧
      Answered launch (command host) world starts run.1.answer run.2 := by
  rw [← maxAttempts_withRetries]
  apply startedSafely_retrying (RetryPlan.waitable_withRetries retries)
  rw [maxAttempts_withRetries]
  omega

theorem executor_remote (launch : Launcher σ) (template : String) (ssh : SshSettings)
    (retries : UInt32) : Operation.executor launch template false ssh retries =
      (Operation.remote launch template ssh).retrying (.withRetries retries)
        Failure.isConnectionError := by
  by_cases h : retries = 0
  · subst h
    exact (Operation.retrying_of_one rfl _ _).symm
  · simp [Operation.executor, h]

/-- What is run locally is made once. -/
theorem executor_local (launch : Launcher σ) (template : String) (ssh : SshSettings)
    (retries : UInt32) : Operation.executor launch template true ssh retries =
      (Operation.localShell launch template).retrying (.withRetries 0) Failure.isConnectionError :=
  (Operation.retrying_of_one rfl _ _).symm

/-- A remote command is started again only after the client has not reached the host, and at most so
often as there are retries; a local command is started once. The answer is what the last start came
to. -/
theorem executor_starts (launch : Launcher σ) (template : String) (ssh : SshSettings)
    (retries : UInt32) (host : Host) (world : σ) :
    (let c := sshCommand template ssh host
     let run := Operation.executor launch template false ssh retries host world
     let starts := executorStarts launch template false ssh retries host world
     StartedSafely launch c (min (retries.toNat + 1) 4294967295) world starts ∧
       Answered launch c world starts run.1.answer run.2) ∧
    Operation.executor launch template false ssh 0 =
      (Operation.remote launch template ssh).retrying (.withRetries 0) Failure.isConnectionError ∧
    (let c := shellCommand template host
     let run := Operation.executor launch template true ssh retries host world
     let starts := executorStarts launch template true ssh retries host world
     (¬ c.HoldsNul → starts = [(c, (launch c world).1)]) ∧ (c.HoldsNul → starts = []) ∧
       Answered launch c world starts run.1.answer run.2) := by
  refine ⟨?_, executor_remote launch template ssh 0, ?_⟩
  · simp only [executorStarts, executor_remote]
    exact startedSafely_withRetries launch (sshCommand template ssh) _ host retries world
  · simp only [executorStarts, executor_local]
    obtain ⟨hsafe, hanswered⟩ :=
      startedSafely_withRetries launch (shellCommand template) _ host 0 world
    exact ⟨hsafe.eq_of_one, hsafe.unstarted.mpr, hanswered⟩

/-- The client twice does not reach the host; then the command runs, and what it writes looks like a
failure of the client. The world counts the starts. -/
def flaky : Launcher Nat := fun _ n =>
  (.ok (match n with
    | 0 => ⟨some 255, [], Utf8.encode "  ssh: connect to host sdw1 port 22: Connection refused\r\n"⟩
    | 1 => ⟨some 255, [], Utf8.encode "motd\nkex_exchange_identification: read: reset\n"⟩
    | 2 => ⟨some 0, Utf8.encode "up 3 days \n\n", Utf8.encode "ssh: slow\n"⟩
    | _ => ⟨some 255, [], Utf8.encode "ls: no ssh: here\n"⟩), n + 1)

/-- Five more attempts are allowed. The third start is the last, for the command has run; so is the first
one where the command itself ends in the status of the client, also with a colon in what it writes. -/
theorem executor_starts_flaky :
    let c : Command := ⟨"ssh", ["-o", "BatchMode=yes", "sdw1", "uptime"], []⟩
    let run := Operation.executor flaky "uptime" false .default 5 (Host.ofHostname "sdw1")
    let starts := executorStarts flaky "uptime" false .default 5 (Host.ofHostname "sdw1")
    starts 0 = [(c, (flaky c 0).1), (c, (flaky c 1).1), (c, (flaky c 2).1)] ∧
    (run 0).1.answer = .output "up 3 days" ∧ (run 0).2 = 3 ∧
    starts 3 = [(c, (flaky c 3).1)] ∧
    (run 3).1.answer = .failure (.exit (some 255) "ls: no ssh: here\n") := by
  intro c run starts
  have hnul : ¬ c.HoldsNul := by decide
  have hfirst : ConnectionFailed (flaky c 0).1 := connectionFailed_ok_iff.mpr
    ⟨rfl, by rw [Utf8.decodeLossy_encode]; decide +kernel⟩
  have hsecond : ConnectionFailed (flaky c 1).1 := connectionFailed_ok_iff.mpr
    ⟨rfl, by rw [Utf8.decodeLossy_encode]; decide +kernel⟩
  have hran : ¬ ConnectionFailed (flaky c 2).1 := fun h => nomatch (connectionFailed_ok_iff.mp h).1
  have hended : ¬ ConnectionFailed (flaky c 3).1 := by
    intro h
    have hline := (connectionFailed_ok_iff.mp h).2
    rw [Utf8.decodeLossy_encode] at hline
    exact absurd hline (by decide +kernel)
  obtain ⟨⟨hsafe, hanswered⟩, -⟩ :=
    executor_starts flaky "uptime" .default 5 (Host.ofHostname "sdw1") 0
  obtain ⟨⟨hsafe', hanswered'⟩, -⟩ :=
    executor_starts flaky "uptime" .default 5 (Host.ofHostname "sdw1") 3
  have hcommand : sshCommand "uptime" .default (Host.ofHostname "sdw1") = c := rfl
  rw [hcommand] at hsafe hanswered hsafe' hanswered'
  have hthree : (starts 0).length = 2 + 1 := by
    refine hsafe.length_eq hnul (by decide) (fun i hi => ?_) hran
    match i, hi with
    | 0, _ => exact hfirst
    | 1, _ => exact hsecond
  have hone : (starts 3).length = 0 + 1 := hsafe'.length_eq hnul (by decide) nofun hended
  have hstarts : starts 0 = [(c, (flaky c 0).1), (c, (flaky c 1).1), (c, (flaky c 2).1)] :=
    hsafe.recorded.trans (by rw [hthree]; rfl)
  have hstarts' : starts 3 = [(c, (flaky c 3).1)] := hsafe'.recorded.trans (by rw [hone]; rfl)
  obtain ⟨text, hanswer, htext⟩ := (hanswered.last _ (congrArg List.getLast? hstarts)).output _ _ rfl
  rw [Utf8.decodeLossy_encode] at htext
  have htext : text = "up 3 days" := (endsTrimmed_iff.mp htext).trans (by decide)
  have hanswer' := (hanswered'.last _ (congrArg List.getLast? hstarts')).failure _ _ _ rfl (by decide)
  rw [Utf8.decodeLossy_encode] at hanswer'
  refine ⟨hstarts, hanswer.trans (congrArg Answer.output htext), ?_, hstarts', hanswer'⟩
  exact hanswered.world.trans (by rw [hthree]; rfl)

end Fanout
