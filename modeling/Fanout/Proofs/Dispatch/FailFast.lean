import Fanout.Proofs.Dispatch.Answers
import Fanout.Proofs.Dispatch.Failures

/-!
# Stopping at the first failure

What fail-fast promises in every interleaving: cancelled hosts were never run and are the fault of
one that failed, no more hosts fail than there are workers, and the log tells once who stopped the
dispatch. A run without a failure cannot be told from one that would have gone on.
-/
namespace Fanout.Dispatch

variable {policy : Policy} {hosts : HostSet} {s : State hosts.size} {l : Label}
  {labels : List Label}

/-! ## Outcomes of a finished run -/

section Finished

variable {m : Outcomes} (hids : m.ids.Perm hosts.ids)
  (houts : ∀ i, ∃ o, m.get? (hostAt hosts i).id = some o ∧
    Closed (hostAt hosts i) o (trail (hostAt hosts i) s.journal))

include houts in
theorem failed_iff_fallen (i : Fin hosts.size) :
    (∃ e, m.get? (hostAt hosts i).id = some (.failed e)) ↔ hostAt hosts i ∈ fallen s.journal := by
  obtain ⟨o, ho, hc⟩ := houts i
  rw [← hc.failed_iff, ho]
  simp

include houts in
theorem closed_of_get? {i : Fin hosts.size} {o : Outcome}
    (ho : m.get? (hostAt hosts i).id = some o) :
    Closed (hostAt hosts i) o (trail (hostAt hosts i) s.journal) := by
  obtain ⟨o', ho', hc⟩ := houts i
  obtain rfl := Option.some.inj (ho.symm.trans ho')
  exact hc

include hids houts in
theorem failed_length_le : m.failed.length ≤ (fallen s.journal).length := by
  have hsub : m.failed.map Prod.fst ⊆ (fallen s.journal).map Host.id := by
    intro id hid
    obtain ⟨⟨id, e⟩, he, rfl⟩ := List.mem_map.mp hid
    have hget := Outcomes.mem_failed_iff.mp he
    obtain ⟨i, rfl⟩ := exists_hostAt (hids.mem_iff.mp (Outcomes.mem_ids_iff.mpr ⟨_, hget⟩))
    exact List.mem_map_of_mem ((failed_iff_fallen houts i).mp ⟨e, hget⟩)
  simpa using (List.Nodup.subperm m.nodup_failed_ids hsub).length_le

include houts in
theorem failed_ne_nil (hknown : ∀ x ∈ fallen s.journal, ∃ i, x = hostAt hosts i)
    (hne : fallen s.journal ≠ []) : m.failed ≠ [] := by
  obtain ⟨x, hx⟩ := List.exists_mem_of_ne_nil _ hne
  obtain ⟨i, rfl⟩ := hknown x hx
  obtain ⟨e, he⟩ := (failed_iff_fallen houts i).mpr hx
  exact List.ne_nil_of_mem (Outcomes.mem_failed_iff.mpr he)

end Finished

/-! ## Runs without a failure -/

/-- The policy that goes on after a failure, with as many workers. -/
def continuing (policy : Policy) : Policy :=
  { policy with continueOnError := true }

/-- Only an operation that fails shows whether the dispatch goes on after failures. -/
theorem step_continuing (hl : failers [l] = []) :
    step (continuing policy) hosts s l = step policy hosts s l := by
  cases l with
  | move w => rfl
  | finish w e =>
      have hf : e.answer.outcome.isFailure = false := by
        by_contra hne
        simp [failers, Label.failer?, hne] at hl
      simp [step, State.finish, hf]

theorem steps_continuing (hnone : failers labels = []) :
    steps (continuing policy) hosts s labels = steps policy hosts s labels := by
  induction labels generalizing s with
  | nil => rfl
  | cons l labels ih =>
      rw [← List.singleton_append, failers_append, List.append_eq_nil_iff] at hnone
      simp only [steps, List.foldlM_cons, step_continuing hnone.1]
      exact bind_congr fun t => ih hnone.2

/-- The answers that two journals tell of come to the same outcome, host by host. -/
def Agree (hosts : HostSet) (journal journal' : List Event) : Prop :=
  ∀ i a a', .executed (hostAt hosts i) a ∈ journal → .executed (hostAt hosts i) a' ∈ journal' →
    a.outcome = a'.outcome

/-- Finished pools in which no token fired give the same outcomes if their answers agree. -/
theorem outcomes_eq_of_agree {policy' : Policy} {labels' : List Label} {s' : State hosts.size}
    (hj : policy.maxConcurrency ≠ 0) (hj' : policy'.maxConcurrency ≠ 0)
    (h : steps policy hosts (State.initial policy hosts) labels = some s) (hs : s.Finished)
    (hc : s.cancelled = false)
    (h' : steps policy' hosts (State.initial policy' hosts) labels' = some s') (hs' : s'.Finished)
    (hc' : s'.cancelled = false) (hagree : Agree hosts s.journal s'.journal) :
    s'.outcomes = s.outcomes := by
  obtain ⟨m, hm, hids, houts⟩ := exists_outcomes_of_steps hj h hs
  let outcome : Host → Outcome := fun h => (m.get? h.id).getD .cancelled
  have hanswer : ∀ i a, .executed (hostAt hosts i) a ∈ s.journal →
      a.outcome = outcome (hostAt hosts i) := by
    intro i a ha
    obtain ⟨o, ho, hclosed⟩ := houts i
    rw [← hclosed.eq_of_executed ha]
    simp only [outcome, ho, Option.getD_some]
  have hanswer' : ∀ i a', .executed (hostAt hosts i) a' ∈ s'.journal →
      a'.outcome = outcome (hostAt hosts i) := by
    intro i a' ha'
    obtain ⟨o, ho, hclosed⟩ := houts i
    have hrun : o ≠ .cancelled := by
      rintro rfl
      rw [(Token.of_steps h).closed _ hclosed.completed_mem] at hc
      cases hc
    obtain ⟨a, ha, -⟩ := hclosed.exists_executed hrun
    rw [← hanswer i a ha, hagree i a a' ha ha']
  rw [outcomes_eq_tally outcome hj h hs hc hanswer, outcomes_eq_tally outcome hj' h' hs' hc' hanswer']

/-! ## The promise -/

theorem Token.fired_iff_of_finished (ht : Token policy hosts s) (hs : s.Finished) :
    s.cancelled = true ↔ policy.continueOnError = false ∧ fallen s.journal ≠ [] := by
  rw [← ht.fired_iff, or_iff_left]
  rintro ⟨p, hp, hfailing⟩
  have hdone := hs p hp
  cases p <;> simp [Phase.isFailing, Phase.isDone] at hfailing hdone

/-- What a finished run leaves under fail-fast, where `m` are its outcomes. -/
structure Stopped (policy : Policy) (hosts : HostSet) (labels : List Label) (s : State hosts.size)
    (m : Outcomes) : Prop where
  /-- A cancelled host was never run, and another one failed. -/
  cancelled : ∀ i, m.get? (hostAt hosts i).id = some .cancelled →
    trail (hostAt hosts i) s.journal = [.completed (hostAt hosts i) .cancelled] ∧ m.failed ≠ []
  status : m.status = .cancelled → m.failed ≠ []
  failed_le : m.failed.length ≤ State.poolSize policy hosts.size
  /-- If nothing fails, the run is one that goes on after failures, and all of those with the same
  answers come to the same outcomes. -/
  unfailing : failers labels = [] → m.cancelled = [] ∧
    steps (continuing policy) hosts (State.initial (continuing policy) hosts) labels = some s ∧
    ∀ (policy' : Policy) (labels' : List Label) (s' : State hosts.size),
      policy'.continueOnError = true → policy'.maxConcurrency ≠ 0 →
      steps policy' hosts (State.initial policy' hosts) labels' = some s' → s'.Finished →
      Agree hosts s.journal s'.journal → s'.outcomes = .ok m
  /-- Besides what the operations wrote, the log has one notice if a host failed, and else none. -/
  told : ∃ own, (logged s.journal).Perm (labels.flatMap Label.log ++ own) ∧
    (m.failed = [] → own = []) ∧
    (m.failed ≠ [] → ∃ i e, m.get? (hostAt hosts i).id = some (.failed e) ∧
      own = [fireRecord (hostAt hosts i)])

theorem exists_stopped (hj : policy.maxConcurrency ≠ 0) (hp : policy.continueOnError = false)
    (h : steps policy hosts (State.initial policy hosts) labels = some s) (hs : s.Finished) :
    ∃ m, s.outcomes = .ok m ∧ Stopped policy hosts labels s m := by
  obtain ⟨m, hm, hids, houts⟩ := exists_outcomes_of_steps hj h hs
  obtain ⟨hlen, hknown⟩ := fallen_of_steps h
  have ht := Token.of_steps h
  -- When all workers are done, the token has fired just if an operation failed.
  have hfired : s.cancelled = true ↔ fallen s.journal ≠ [] :=
    (ht.fired_iff_of_finished hs).trans (and_iff_right hp)
  have hfailed : s.cancelled = true → m.failed ≠ [] := fun hc =>
    failed_ne_nil houts hknown (hfired.mp hc)
  have hcancelled : ∀ i, m.get? (hostAt hosts i).id = some .cancelled → s.cancelled = true :=
    fun i hi => ht.closed _ (closed_of_get? houts hi).completed_mem
  have hat : ∀ id o, m.get? id = some o → ∃ i, (hostAt hosts i).id = id := fun id o ho =>
    exists_hostAt (hids.mem_iff.mp (Outcomes.mem_ids_iff.mpr ⟨o, ho⟩))
  refine ⟨m, hm, ?_⟩
  constructor
  case cancelled =>
    intro i hi
    exact ⟨(closed_of_get? houts hi).trail_eq_of_cancelled, hfailed (hcancelled i hi)⟩
  case status =>
    intro hstatus
    obtain ⟨id, hid⟩ := Outcomes.exists_cancelled_of_status hstatus
    obtain ⟨i, rfl⟩ := hat id _ hid
    exact hfailed (hcancelled i hid)
  case failed_le =>
    calc m.failed.length ≤ (fallen s.journal).length := failed_length_le hids houts
      _ = (failers labels).length := hlen
      _ ≤ s.workers.length := (Failures.of_steps hp h).length_le
      _ = State.poolSize policy hosts.size := length_workers_of_steps h
  case unfailing =>
    intro hnone
    have hc : s.cancelled = false := by
      by_contra hc
      exact hfired.mp (by simpa using hc) (List.length_eq_zero_iff.mp (by rw [hlen, hnone]; rfl))
    refine ⟨Outcomes.cancelled_eq_nil_iff.mpr fun id hid => ?_, (steps_continuing hnone).trans h,
      fun policy' labels' s' hp' hj' h' hs' hagree => ?_⟩
    · obtain ⟨i, rfl⟩ := hat id _ hid
      rw [hcancelled i hid] at hc
      cases hc
    · rw [← hm]
      exact outcomes_eq_of_agree hj hj' h hs hc h' hs'
        ((Token.of_steps h').cancelled_eq_false hp') hagree
  case told =>
    obtain ⟨own, hperm, hn⟩ := Told.of_steps h
    refine ⟨own, hperm, ?_⟩
    generalize hc : s.cancelled = fired at hn
    cases hn with
    | none =>
        have hnil : fallen s.journal = [] := by
          by_contra hne
          rw [hfired.mpr hne] at hc
          cases hc
        have hle := failed_length_le hids houts
        rw [hnil] at hle
        exact ⟨fun _ => rfl, fun hne => absurd (List.length_eq_zero_iff.mp (Nat.le_zero.mp hle)) hne⟩
    | one hx =>
        obtain ⟨i, rfl⟩ := hknown _ hx
        obtain ⟨e, he⟩ := (failed_iff_fallen houts i).mpr hx
        exact ⟨fun hnil => absurd hnil (hfailed hc), fun _ => ⟨i, e, he, rfl⟩⟩

/-- Under fail-fast no worker meets two failures, after the token has fired fewer operations end
than there are workers, and a finished run leaves what `Stopped` says. Under a policy that goes on
after failures no host is ever cancelled. -/
theorem fail_fast_safe (hj : policy.maxConcurrency ≠ 0)
    (h : steps policy hosts (State.initial policy hosts) labels = some s) :
    (policy.continueOnError = false →
      (failers labels).Nodup ∧
      (∀ (before after : List Label) (t : State hosts.size), labels = before ++ after →
        steps policy hosts (State.initial policy hosts) before = some t → t.cancelled = true →
        after.countP Label.isFinish < State.poolSize policy hosts.size) ∧
      (s.Finished → ∃ m, s.outcomes = .ok m ∧ Stopped policy hosts labels s m)) ∧
    (policy.continueOnError = true →
      (∀ x, .completed x .cancelled ∉ s.journal) ∧
      (s.Finished → ∃ m, s.outcomes = .ok m ∧ m.cancelled = [])) := by
  constructor
  · intro hp
    refine ⟨(Failures.of_steps hp h).once, ?_, exists_stopped hj hp h⟩
    rintro before after t rfl ht hc
    rw [steps_append, ht] at h
    rw [← length_workers_of_steps ht]
    exact Nat.lt_of_le_of_lt (finishes_le h hc) (inFlight_lt_of_cancelled ht hc)
  · intro hp
    have ht := Token.of_steps h
    have hnever : ∀ x, .completed x .cancelled ∉ s.journal := by
      intro x hx
      have := ht.closed x hx
      rw [ht.cancelled_eq_false hp] at this
      cases this
    refine ⟨hnever, fun hs => ?_⟩
    obtain ⟨m, hm, hids, houts⟩ := exists_outcomes_of_steps hj h hs
    refine ⟨m, hm, Outcomes.cancelled_eq_nil_iff.mpr fun id hid => ?_⟩
    obtain ⟨i, rfl⟩ := exists_hostAt (hids.mem_iff.mp (Outcomes.mem_ids_iff.mpr ⟨_, hid⟩))
    exact hnever _ (closed_of_get? houts hid).completed_mem

theorem fail_fast_safe_lateReader : stopping.maxConcurrency ≠ 0 ∧
    ∃ s m, steps stopping twoHosts (State.initial stopping twoHosts) lateReader = some s ∧
      s.Finished ∧ s.outcomes = .ok m ∧
      m.entries = [("sdw1", .failed "disk full"), ("sdw2", .cancelled)] ∧
      (failers lateReader).Nodup ∧ Stopped stopping twoHosts lateReader s m := by
  obtain ⟨s, m, hs, hdone, hm, hentries⟩ := lateReader_ends
  obtain ⟨honce, -, hend⟩ := (fail_fast_safe (by decide) hs).1 rfl
  obtain ⟨m', hm', hstopped⟩ := hend hdone
  obtain rfl : m = m' := Except.ok.inj (hm.symm.trans hm')
  exact ⟨by decide, s, m, hs, hdone, hm, hentries, honce, hstopped⟩

end Fanout.Dispatch
