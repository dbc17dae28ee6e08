import Fanout.Proofs.Dispatch.Coverage
import Fanout.Proofs.Dispatch.Token

/-!
# Outcomes and answers

What a finished pool gives for a host is the outcome of the answer of its operation, unless the host
was cancelled. So where nothing is cancelled the outcomes are those of the answers, whichever worker
got them and whenever.
-/
namespace Fanout

theorem Outcome.exists_failed {o : Outcome} (hf : o.isFailure = true) (hc : o ≠ .cancelled) :
    ∃ e, o = .failed e := by
  cases o with
  | success output => cases hf
  | failed e => exact ⟨e, rfl⟩
  | cancelled => exact absurd rfl hc

namespace Dispatch

/-! ## The outcome of one host -/

namespace Closed

variable {h : Host} {o : Outcome} {journal : List Event} {a : Answer}

theorem completed_mem (hc : Closed h o (trail h journal)) : .completed h o ∈ journal := by
  obtain ⟨r, -, ht⟩ := hc
  have hmem : .completed h o ∈ trail h journal := by simp [ht]
  exact (mem_trail.mp hmem).1

/-- A cancelled host leaves no trace but its completion. -/
theorem trail_eq_of_cancelled {t : List Event} (hc : Closed h .cancelled t) :
    t = [.completed h .cancelled] := by
  obtain ⟨r, hr, rfl⟩ := hc
  generalize ho : Outcome.cancelled = o at hr
  cases hr with
  | ran a => exact absurd ho.symm (outcome_ne_cancelled a)
  | skipped => rw [ho]; rfl

theorem eq_of_executed (hc : Closed h o (trail h journal)) (ha : .executed h a ∈ journal) :
    o = a.outcome := by
  have hmem : .executed h a ∈ trail h journal := mem_trail.mpr ⟨ha, rfl⟩
  obtain ⟨r, hr, ht⟩ := hc
  rw [ht] at hmem
  cases hr with
  | ran b =>
      obtain rfl : a = b := by simpa using hmem
      rfl
  | skipped => simp at hmem

theorem exists_executed (hc : Closed h o (trail h journal)) (ho : o ≠ .cancelled) :
    ∃ a, .executed h a ∈ journal ∧ a.outcome = o := by
  obtain ⟨r, hr, ht⟩ := hc
  cases hr with
  | ran a =>
      have hmem : .executed h a ∈ trail h journal := by simp [ht]
      exact ⟨a, (mem_trail.mp hmem).1, rfl⟩
  | skipped => exact absurd rfl ho

theorem failed_iff (hc : Closed h o (trail h journal)) :
    (∃ e, o = .failed e) ↔ h ∈ fallen journal := by
  rw [mem_fallen]
  constructor
  · rintro ⟨e, rfl⟩
    obtain ⟨a, ha, ho⟩ := hc.exists_executed (by simp)
    exact ⟨a, ha, by rw [ho]; rfl⟩
  · rintro ⟨a, ha, hf⟩
    obtain rfl := hc.eq_of_executed ha
    exact Outcome.exists_failed hf (outcome_ne_cancelled a)

end Closed

/-! ## The outcomes of a host set -/

/-- The outcomes of the hosts of a set, given each host's. -/
def tally (hosts : HostSet) (outcome : Host → Outcome) : Outcomes :=
  Outcomes.ofList (hosts.hosts.map fun h => (h.id, outcome h))

variable {policy : Policy} {hosts : HostSet} {s : State hosts.size} {labels : List Label}

theorem eq_tally {outcome : Host → Outcome} {m : Outcomes} (hids : m.ids.Perm hosts.ids)
    (h : ∀ i, m.get? (hostAt hosts i).id = some (outcome (hostAt hosts i))) :
    m = tally hosts outcome := by
  have hnd : ((hosts.hosts.map fun h => (h.id, outcome h)).map Prod.fst).Nodup := by
    simpa [Function.comp_def] using hosts.nodup
  refine Outcomes.eq_of_perm ((List.perm_ext_iff_of_nodup m.nodup_entries
    (Outcomes.nodup_entries _)).mpr ?_)
  rintro ⟨id, o⟩
  rw [tally, Outcomes.mem_ofList_iff hnd]
  constructor
  · intro hmem
    have hget := Outcomes.get?_eq_some_iff.mpr hmem
    obtain ⟨i, rfl⟩ := exists_hostAt (hids.mem_iff.mp (List.mem_map_of_mem hmem))
    obtain rfl := Option.some.inj (hget.symm.trans (h i))
    exact List.mem_map.mpr ⟨_, List.get_mem _ _, rfl⟩
  · intro hmem
    obtain ⟨x, hx, he⟩ := List.mem_map.mp hmem
    obtain ⟨i, hi, rfl⟩ := List.getElem_of_mem hx
    cases he
    exact Outcomes.get?_eq_some_iff.mp (h ⟨i, hi⟩)

/-- A finished pool in which the token has not fired gives the outcomes of its hosts' answers. -/
theorem outcomes_eq_tally (outcome : Host → Outcome) (hj : policy.maxConcurrency ≠ 0)
    (h : steps policy hosts (State.initial policy hosts) labels = some s) (hs : s.Finished)
    (hc : s.cancelled = false)
    (hanswer : ∀ i a, .executed (hostAt hosts i) a ∈ s.journal →
      a.outcome = outcome (hostAt hosts i)) :
    s.outcomes = .ok (tally hosts outcome) := by
  obtain ⟨m, hm, hids, houts⟩ := exists_outcomes_of_steps hj h hs
  rw [hm, eq_tally hids fun i => ?_]
  obtain ⟨o, ho, hclosed⟩ := houts i
  have hrun : o ≠ .cancelled := by
    rintro rfl
    rw [(Token.of_steps h).closed _ hclosed.completed_mem] at hc
    cases hc
  obtain ⟨a, ha, rfl⟩ := hclosed.exists_executed hrun
  rw [ho, hanswer i a ha]

/-- A finished pool has run an operation if it has hosts: the token fires only after one that failed. -/
theorem exists_executed_of_finished (hj : policy.maxConcurrency ≠ 0) (hne : hosts.isEmpty = false)
    (h : steps policy hosts (State.initial policy hosts) labels = some s) (hs : s.Finished) :
    ∃ x a, .executed x a ∈ s.journal := by
  obtain ⟨m, -, -, houts⟩ := exists_outcomes_of_steps hj h hs
  have hpos : 0 < hosts.size := List.length_pos_iff.mpr (List.isEmpty_eq_false_iff.mp hne)
  obtain ⟨o, -, hclosed⟩ := houts ⟨0, hpos⟩
  by_cases ho : o = .cancelled
  · subst ho
    have ht := Token.of_steps h
    have hfell := (ht.fired_iff.mp (.inl (ht.closed _ hclosed.completed_mem))).2
    obtain ⟨x, hx⟩ := List.exists_mem_of_ne_nil _ hfell
    obtain ⟨a, ha, -⟩ := mem_fallen.mp hx
    exact ⟨x, a, ha⟩
  · obtain ⟨a, ha, -⟩ := hclosed.exists_executed ho
    exact ⟨_, a, ha⟩

end Dispatch

end Fanout
