import Fanout.Dispatch.Run
import Fanout.Proofs.Dispatch.Ledger

/-!
# Every host has its own outcome, once

Whatever the order in which the workers act: the collector refuses nothing, and when all workers have
left their loops the outcomes are there, one for each host of the set and for no other, and each is
the outcome of the one execution of that host's operation, or a cancellation if there was none.
-/
namespace Fanout.Dispatch

/-! ## Executions of one host -/

def Event.answer? : Event → Option Answer
  | .executed _ a => some a
  | _ => none

/-- What the operation on a host answered, each time it ran. -/
def executions (h : Host) (journal : List Event) : List Answer :=
  (trail h journal).filterMap Event.answer?

/-- The outcome of a host: that of its one execution, or a cancellation if it never ran. -/
inductive Earned (h : Host) (journal : List Event) : Outcome → Prop where
  | output {text : String} (ran : executions h journal = [.output text]) :
      Earned h journal (.success text)
  | failure {cause : Failure} (ran : executions h journal = [.failure cause]) :
      Earned h journal (.failed cause.chain)
  | panic {message : Option String} (ran : executions h journal = [.panic message]) :
      Earned h journal (.failed ("operation panicked: " ++ message.getD "unknown panic"))
  | skipped (never : executions h journal = []) : Earned h journal .cancelled

theorem Closed.earned {h : Host} {o : Outcome} {journal : List Event}
    (hc : Closed h o (trail h journal)) : Earned h journal o := by
  obtain ⟨r, hr, ht⟩ := hc
  cases hr with
  | skipped => exact .skipped (by rw [executions, ht]; rfl)
  | ran a =>
      have hran : executions h journal = [a] := by rw [executions, ht]; rfl
      cases a with
      | output text => exact .output hran
      | failure cause => exact .failure hran
      | panic message => exact .panic hran

/-! ## The end of a run -/

variable {policy : Policy} {hosts : HostSet} {s : State hosts.size} {labels : List Label}

def State.Finished {n : Nat} (s : State n) : Prop :=
  ∀ p ∈ s.workers, p.isDone = true

theorem held_eq_nil_of_finished {n : Nat} {s : State n} (hs : s.Finished) : held s.workers = [] := by
  refine List.filterMap_eq_nil_iff.mpr fun p hp => ?_
  have := hs p hp
  cases p <;> simp_all [Phase.isDone, Phase.place?]

namespace Ledger

/-- In a finished pool every host is recorded. -/
theorem stored_perm (h : Ledger hosts s) (hs : s.Finished)
    (hpool : 0 < hosts.size → 0 < s.workers.length) :
    (s.collector.stored.map Prod.fst).Perm hosts.ids := by
  have hall : hosts.ids.length ≤ s.next := by
    rw [length_ids]
    rcases Nat.eq_zero_or_pos hosts.size with hz | hpos
    · omega
    · -- A worker leaves its loop only when it finds the queue empty.
      obtain ⟨p, hp⟩ := List.exists_mem_of_length_pos (hpool hpos)
      have hdone := hs p hp
      cases p <;> simp only [Phase.isDone, Bool.false_eq_true] at hdone
      exact h.drained hp
  have ht := h.taken
  rwa [accounted, held_eq_nil_of_finished hs, List.take_of_length_le hall] at ht

theorem outcomes_eq_ok (h : Ledger hosts s)
    (hperm : (s.collector.stored.map Prod.fst).Perm hosts.ids) :
    s.outcomes = .ok (Outcomes.ofList s.collector.stored) := by
  have hlen : s.collector.stored.length = s.collector.expected.length := by
    rw [h.expected, ← hperm.length_eq, List.length_map]
  simp only [State.outcomes, h.faultless, Collector.snapshot_eq_ok hlen]

/-- A finished pool gives its outcomes: one for each host, told by the host's trail. -/
theorem exists_outcomes (h : Ledger hosts s) (hs : s.Finished)
    (hpool : 0 < hosts.size → 0 < s.workers.length) :
    ∃ m, s.outcomes = .ok m ∧ m.ids.Perm hosts.ids ∧
      ∀ i, ∃ o, m.get? (hostAt hosts i).id = some o ∧
        Closed (hostAt hosts i) o (trail (hostAt hosts i) s.journal) := by
  have hperm := h.stored_perm hs hpool
  have hnd : (s.collector.stored.map Prod.fst).Nodup := hperm.nodup_iff.mpr (nodup_ids hosts)
  refine ⟨_, h.outcomes_eq_ok hperm, (Outcomes.ids_ofList_perm hnd).trans hperm, fun i => ?_⟩
  obtain ⟨⟨id, o⟩, hmem, hid⟩ := List.mem_map.mp (hperm.mem_iff.mpr (id_mem_ids i))
  obtain rfl : id = (hostAt hosts i).id := hid
  exact ⟨o, (Outcomes.get?_ofList_eq_some_iff hnd).mpr hmem, h.recorded i o hmem⟩

end Ledger

theorem exists_outcomes_of_steps (hj : policy.maxConcurrency ≠ 0)
    (h : steps policy hosts (State.initial policy hosts) labels = some s) (hs : s.Finished) :
    ∃ m, s.outcomes = .ok m ∧ m.ids.Perm hosts.ids ∧
      ∀ i, ∃ o, m.get? (hostAt hosts i).id = some o ∧
        Closed (hostAt hosts i) o (trail (hostAt hosts i) s.journal) := by
  refine (Ledger.of_steps h).exists_outcomes hs fun hn => ?_
  rw [length_workers_of_steps h]
  exact poolSize_pos hj hn

/-- In every reachable state of the pool there is no fault and the collector takes what a worker is
about to record. In every finished one the outcomes are there: the ids are those of the host set, and
each has the outcome of its own execution, or was cancelled. -/
theorem every_host_recorded_once (hj : policy.maxConcurrency ≠ 0)
    (h : steps policy hosts (State.initial policy hosts) labels = some s) :
    s.fault = none ∧
    (∀ (w : Nat) (i : Fin hosts.size) (o : Outcome), s.workers[w]? = some (.announced i o) →
      ∃ c, s.collector.record (hostAt hosts i).id o = .ok c) ∧
    (s.Finished → ∃ m, s.outcomes = .ok m ∧ m.ids.Perm hosts.ids ∧
      ∀ i, ∃ o, m.get? (hostAt hosts i).id = some o ∧ Earned (hostAt hosts i) s.journal o) := by
  have hl := Ledger.of_steps h
  refine ⟨hl.faultless, fun w i o hw => ⟨_, hl.record_eq_ok hw⟩, fun hs => ?_⟩
  obtain ⟨m, hm, hids, houts⟩ := exists_outcomes_of_steps hj h hs
  refine ⟨m, hm, hids, fun i => ?_⟩
  obtain ⟨o, ho, hc⟩ := houts i
  exact ⟨o, ho, hc.earned⟩

/-! ## A run in which one host fails and another is cancelled -/

def twoHosts : HostSet :=
  ⟨[.ofHostname "sdw1", .ofHostname "sdw2"], by decide⟩

/-- Two at a time, stopping at the first failure. -/
def stopping : Policy := ⟨false, 2⟩

def diskFull : Execution := ⟨.failure (.message "disk full"), []⟩

/-- Both workers take their host; the first one's fails before the second reads the token. -/
def lateReader : List Label :=
  [.move 0, .move 1, .move 0, .move 0, .finish 0 diskFull, .move 0, .move 1, .move 1, .move 1,
    .move 0, .move 0, .move 1, .move 0]

theorem lateReader_ends : ∃ s m,
    steps stopping twoHosts (State.initial stopping twoHosts) lateReader = some s ∧ s.Finished ∧
    s.outcomes = .ok m ∧ m.entries = [("sdw1", .failed "disk full"), ("sdw2", .cancelled)] := by
  have h : (steps stopping twoHosts (State.initial stopping twoHosts) lateReader).map
      (fun s => (s.workers.all Phase.isDone, s.outcomes.toOption.map Outcomes.entries)) =
      some (true, some [("sdw1", .failed "disk full"), ("sdw2", .cancelled)]) := by decide
  obtain ⟨s, hs, he⟩ := Option.map_eq_some_iff.mp h
  obtain ⟨hdone, hentries⟩ := Prod.mk.injEq .. ▸ he
  obtain ⟨m, hm, hentries⟩ := Option.map_eq_some_iff.mp hentries
  refine ⟨s, m, hs, List.all_eq_true.mp hdone, ?_, hentries⟩
  cases hout : s.outcomes with
  | error f => rw [hout] at hm; cases hm
  | ok m' => rw [hout] at hm; cases hm; rfl

theorem every_host_recorded_once_lateReader : stopping.maxConcurrency ≠ 0 ∧
    ∃ s m, steps stopping twoHosts (State.initial stopping twoHosts) lateReader = some s ∧
      s.Finished ∧ s.fault = none ∧ s.outcomes = .ok m ∧ m.ids.Perm ["sdw1", "sdw2"] ∧
      ∀ i, ∃ o, m.get? (hostAt twoHosts i).id = some o ∧
        Earned (hostAt twoHosts i) s.journal o := by
  obtain ⟨s, -, hs, hdone, -⟩ := lateReader_ends
  obtain ⟨hfault, -, hend⟩ := every_host_recorded_once (by decide) hs
  obtain ⟨m, hm⟩ := hend hdone
  exact ⟨by decide, s, m, hs, hdone, hfault, hm⟩

end Fanout.Dispatch
