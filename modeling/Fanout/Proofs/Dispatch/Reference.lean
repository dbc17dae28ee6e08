import Fanout.Outcome.Codec
import Fanout.Proofs.Dispatch.Answers
import Fanout.Proofs.Dispatch.Driving

/-!
# A dispatch and one host after the other

An operation whose answer depends on the host alone, dispatched under a policy that goes on after
failures, gives what running it on the hosts one after the other gives. So neither the number of
workers nor their order is seen in the result, nor in anything that is told of it. What every execution
of an operation writes stands in the journal of any dispatch that has hosts.
-/
namespace Fanout.Dispatch

variable {σ : Type} {op : Operation σ} {answer : Host → Answer}

/-! ## One host after the other -/

/-- Runs an operation on some hosts, one after the other. -/
def sequential (op : Operation σ) : List Host → σ → List (String × Outcome) × σ
  | [], world => ([], world)
  | h :: hs, world =>
    let (e, world') := op h world
    let (rest, last) := sequential op hs world'
    ((h.id, e.answer.outcome) :: rest, last)

def reference (op : Operation σ) (hosts : HostSet) (world : σ) : Outcomes :=
  Outcomes.ofList (sequential op hosts.hosts world).1

theorem sequential_eq_map (hop : ∀ h world, (op h world).1.answer = answer h) (hs : List Host)
    (world : σ) : (sequential op hs world).1 = hs.map fun h => (h.id, (answer h).outcome) := by
  induction hs generalizing world with
  | nil => rfl
  | cons h hs ih => simp only [sequential, hop, ih, List.map_cons]

theorem reference_eq_tally (hop : ∀ h world, (op h world).1.answer = answer h) (hosts : HostSet)
    (world : σ) : reference op hosts world = tally hosts fun h => (answer h).outcome := by
  rw [reference, sequential_eq_map hop, tally]

/-! ## What the operation answers in a run -/

variable {policy : Policy} {hosts : HostSet} {s s' : State hosts.size} {l : Label}
  {labels : List Label} {world world' : σ}

/-- Only the end of an operation is told as one, with its own answer. -/
theorem Action.executed (ha : Action policy hosts s l s') {x : Host} {a : Answer}
    (hx : .executed x a ∈ s'.journal) : .executed x a ∈ s.journal ∨
    ∃ w e i, l = .finish w e ∧ s.workers[w]? = some (.running i) ∧ x = hostAt hosts i ∧
      a = e.answer := by
  cases ha with
  | pull => exact Or.inl hx
  | leave => exact Or.inl hx
  | record => exact Or.inl hx
  | refuse => exact Or.inl (by simpa [State.note, State.put] using hx)
  | advance hw ha =>
      rcases List.mem_append.mp hx with hold | hnew
      · exact Or.inl hold
      cases ha with
      | fail e => exact Or.inr ⟨_, _, _, rfl, hw, by simpa using hnew⟩
      | settle e => exact Or.inr ⟨_, _, _, rfl, hw, by simpa using hnew⟩
      | fire => simp [fireNotice] at hnew
      | _ => simp at hnew

theorem Plays.answer_eq (hop : ∀ h world, (op h world).1.answer = answer h)
    (h : Plays policy hosts op s world labels s' world')
    (hs : ∀ x a, .executed x a ∈ s.journal → a = answer x) :
    ∀ x a, .executed x a ∈ s'.journal → a = answer x := by
  induction h with
  | nil => exact hs
  | move ht rest ih =>
      refine ih fun x a hx => ?_
      rcases (step_action ht).executed hx with hx | ⟨v, e, j, he, -⟩
      · exact hs x a hx
      · cases he
  | finish hw ht rest ih =>
      refine ih fun x a hx => ?_
      rcases (step_action ht).executed hx with hx | ⟨v, e, j, he, hv, rfl, rfl⟩
      · exact hs x a hx
      · cases he
        cases hw.symm.trans hv
        exact hop _ _

/-- Every finished interleaving whose answers are the hosts' own gives the reference. -/
theorem outcomes_eq_reference (hop : ∀ h world, (op h world).1.answer = answer h) (world : σ)
    (hp : policy.continueOnError = true) (hj : policy.maxConcurrency ≠ 0)
    (h : steps policy hosts (State.initial policy hosts) labels = some s) (hs : s.Finished)
    (hanswer : ∀ x a, .executed x a ∈ s.journal → a = answer x) :
    s.outcomes = .ok (reference op hosts world) := by
  rw [reference_eq_tally hop]
  refine outcomes_eq_tally _ hj h hs ((Token.of_steps h).cancelled_eq_false hp) fun i a ha => ?_
  rw [hanswer _ a ha]

theorem run_result_eq_reference (hop : ∀ h world, (op h world).1.answer = answer h) (world₀ : σ)
    (hp : policy.continueOnError = true) (hj : policy.maxConcurrency ≠ 0) (pick : Schedule)
    (world : σ) (reports : Bool) :
    (run policy hosts pick op world reports).result = .ok (reference op hosts world₀) := by
  cases he : hosts.isEmpty with
  | true =>
      have hnil : hosts.hosts = [] := List.isEmpty_iff.mp he
      simp only [run_of_isEmpty hj he, reference, hnil]
      rfl
  | false =>
      obtain ⟨labels, s, m, world', hplays, hs, hm, -, hello, hrun⟩ :=
        exists_run hj he pick op world reports
      have hanswer := hplays.answer_eq hop (by simp [State.initial])
      rw [hrun, ← hm]
      exact outcomes_eq_reference hop world₀ hp hj hplays.steps_eq hs hanswer

/-! ## What the operation writes in a run -/

section Writes

variable {P : Log.Record → Prop}

/-- What an operation has written stands in the journal when it has ended. -/
theorem Action.logged_of_finish {w : Nat} {e : Execution} (ha : Action policy hosts s (.finish w e) s')
    {r : Log.Record} (hr : r ∈ e.log) : .logged r ∈ s'.journal := by
  cases ha with
  | advance hw ha =>
      refine List.mem_append_right _ ?_
      cases ha with
      | fail => exact List.mem_append_left _ (List.mem_map_of_mem hr)
      | settle => exact List.mem_append_left _ (List.mem_map_of_mem hr)

/-- If every execution writes such a record, there is one in the journal as soon as one has ended. -/
theorem Plays.exists_logged (hop : ∀ h world, ∃ r ∈ (op h world).1.log, P r)
    (h : Plays policy hosts op s world labels s' world')
    (hs : (∃ x a, .executed x a ∈ s.journal) → ∃ r, P r ∧ .logged r ∈ s.journal) :
    (∃ x a, .executed x a ∈ s'.journal) → ∃ r, P r ∧ .logged r ∈ s'.journal := by
  induction h with
  | nil => exact hs
  | move ht rest ih =>
      refine ih fun ⟨x, a, hx⟩ => ?_
      rcases (step_action ht).executed hx with hx | ⟨v, e, j, he, -⟩
      · obtain ⟨r, hP, hr⟩ := hs ⟨x, a, hx⟩
        obtain ⟨es, hes⟩ := (step_action ht).exists_events
        exact ⟨r, hP, hes ▸ List.mem_append_left es hr⟩
      · cases he
  | finish hw ht rest ih =>
      obtain ⟨r, hr, hP⟩ := hop _ _
      exact ih fun _ => ⟨r, hP, (step_action ht).logged_of_finish hr⟩

theorem exists_logged_of_run (hop : ∀ h world, ∃ r ∈ (op h world).1.log, P r)
    (hj : policy.maxConcurrency ≠ 0) (hne : hosts.isEmpty = false) (pick : Schedule) (world : σ)
    (reports : Bool) : ∃ r, P r ∧ .logged r ∈ (run policy hosts pick op world reports).journal := by
  obtain ⟨labels, s, m, world', hplays, hs, -, -, hello, hrun⟩ := exists_run hj hne pick op world reports
  obtain ⟨r, hP, hr⟩ := hplays.exists_logged hop (by simp [State.initial])
    (exists_executed_of_finished hj hne hplays.steps_eq hs)
  rw [hrun]
  exact ⟨r, hP, List.mem_append_left _ (List.mem_append_right _ hr)⟩

end Writes

/-! ## What is told at the end -/

/-- What comes after the end of the dispatch. -/
def closing : List Event → List Event
  | [] => []
  | .ended :: es => es
  | _ :: es => closing es

theorem closing_append {es fs : List Event} (h : .ended ∉ es) :
    closing (es ++ .ended :: fs) = fs := by
  induction es with
  | nil => rfl
  | cons e es ih =>
      simp only [List.mem_cons, not_or] at h
      obtain ⟨he, hes⟩ := h
      cases e with
      | ended => exact absurd rfl he
      | _ => exact ih hes

theorem Action.ended (ha : Action policy hosts s l s') (he : .ended ∈ s'.journal) :
    .ended ∈ s.journal := by
  cases ha with
  | pull => exact he
  | leave => exact he
  | record => exact he
  | refuse => simpa [State.note, State.put] using he
  | advance hw ha =>
      rcases List.mem_append.mp he with hold | hnew
      · exact hold
      · cases ha <;> simp [fireNotice] at hnew

theorem ended_not_mem (h : steps policy hosts (State.initial policy hosts) labels = some s) :
    .ended ∉ s.journal :=
  steps_induction (P := fun s => .ended ∉ s.journal) (fun hs ha he => hs (ha.ended he)) h
    (by simp [State.initial])

/-- What a dispatch tells at its end is the report on its outcomes. -/
theorem closing_run (hj : policy.maxConcurrency ≠ 0) (hne : hosts.isEmpty = false)
    {pick : Schedule} {m : Outcomes} (hm : (run policy hosts pick op world true).result = .ok m) :
    closing (run policy hosts pick op world true).journal = reportEvents m := by
  obtain ⟨labels, s, m', world', hplays, -, -, -, hello, hrun⟩ :=
    exists_run hj hne pick op world true
  rw [hrun] at hm ⊢
  cases hm
  refine closing_append ?_
  simpa [debug] using ended_not_mem hplays.steps_eq

/-- Two dispatches of one operation under policies that go on after failures, whatever their bounds
and schedules, and every finished interleaving with these answers, give the outcomes of running the
hosts one after the other. So status, diagnostic, report and JSON are the same. -/
theorem schedule_independent (policy policy' : Policy) (hosts : HostSet)
    (hop : ∀ h world, (op h world).1.answer = answer h)
    (hp : policy.continueOnError = true) (hj : policy.maxConcurrency ≠ 0)
    (hp' : policy'.continueOnError = true) (hj' : policy'.maxConcurrency ≠ 0)
    (pick pick' : Schedule) (world world' : σ) :
    let d := run policy hosts pick op world true
    let d' := run policy' hosts pick' op world' true
    let m := reference op hosts world
    d.result = .ok m ∧ d'.result = .ok m ∧
    (∀ (labels : List Label) (s : State hosts.size),
      steps policy hosts (State.initial policy hosts) labels = some s → s.Finished →
      (∀ x a, .executed x a ∈ s.journal → a = answer x) → s.outcomes = .ok m) ∧
    closing d.journal = closing d'.journal ∧
    (hosts.isEmpty = false → closing d.journal = reportEvents m) ∧
    d.result.map (fun m => (m.status, m.diagnostic?, m.report, m.reportJson.pretty)) =
      d'.result.map (fun m => (m.status, m.diagnostic?, m.report, m.reportJson.pretty)) := by
  intro d d' m
  have hd : d.result = .ok m := run_result_eq_reference hop world hp hj pick world true
  have hd' : d'.result = .ok m := run_result_eq_reference hop world hp' hj' pick' world' true
  refine ⟨hd, hd', fun labels s h hs => outcomes_eq_reference hop world hp hj h hs, ?_,
    fun hne => closing_run hj hne hd, by rw [hd, hd']⟩
  cases he : hosts.isEmpty with
  | true =>
      simp only [d, d', run_of_isEmpty hj he, run_of_isEmpty hj' he]
  | false => rw [closing_run hj he hd, closing_run hj' he hd']

/-- A check that one host fails and all others pass; its world counts the checks. -/
def diskCheck : Operation Nat := fun h world =>
  (if h.id = "sdw1" then diskFull else ⟨.output "ok", []⟩, world + 1)

theorem schedule_independent_diskCheck :
    (∀ h world, (diskCheck h world).1.answer = (diskCheck h 0).1.answer) ∧
    (run ⟨true, 1⟩ twoHosts Schedule.inOrder diskCheck 0 true).result =
      .ok (reference diskCheck twoHosts 0) ∧
    (run ⟨true, 2⟩ twoHosts (Schedule.byRank fun i => 1 - i) diskCheck 0 true).result =
      .ok (reference diskCheck twoHosts 0) ∧
    (reference diskCheck twoHosts 0).entries =
      [("sdw1", .failed "disk full"), ("sdw2", .success "ok")] := by
  have hop : ∀ h world, (diskCheck h world).1.answer = (diskCheck h 0).1.answer := fun _ _ => rfl
  obtain ⟨hd, hd', -⟩ := schedule_independent ⟨true, 1⟩ ⟨true, 2⟩ twoHosts hop rfl (by decide) rfl
    (by decide) Schedule.inOrder (Schedule.byRank fun i => 1 - i) 0 0
  exact ⟨hop, hd, hd', by decide⟩

end Fanout.Dispatch
