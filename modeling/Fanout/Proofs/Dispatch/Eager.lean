import Fanout.Proofs.Dispatch.Driving
import Fanout.Proofs.Dispatch.Failures
import Fanout.Proofs.Dispatch.Flight

/-!
# Workers that do not dawdle

A run is eager if no operation ends before every worker has gone as far as it can: it has left its
loop, or it is past the token with a host whose operation has not ended. In which order the operations
end is left open. At each such moment the hosts taken are the first ones of the queue, and as long as
no operation has failed there is one for each operation that has ended and one for each worker, or
there are no more.
-/
namespace Fanout.Dispatch

/-! ## Eager runs and schedules -/

/-- Every worker has left its loop, or is past the token and has not ended its operation. -/
def State.AtRest {n : Nat} (s : State n) : Prop :=
  ∀ p ∈ s.workers, p.isDone = true ∨ p.inFlight = 1

/-- An operation ends only where the pool is at rest. -/
def Patient {n : Nat} (s : State n) (l : Label) : Prop :=
  l.isFinish = true → s.AtRest

def Eager (policy : Policy) (hosts : HostSet) (labels : List Label) : Prop :=
  Along policy hosts Patient (State.initial policy hosts) labels

namespace Schedule

/-- A schedule that lets an operation end only where the pool is at rest. -/
def Eager (pick : Schedule) : Prop :=
  ∀ (n : Nat) (t : State n) (w : Nat) (i : Fin n), choose pick t = some w →
    t.workers[w]? = some (.running i) → t.AtRest

/-- Ending the operations by rank is eager, whatever the ranks. -/
theorem eager_byRank (rank : Nat → Nat) : (byRank rank).Eager := by
  intro n t w i hchoose hw
  cases hfree : t.workers.findIdx? fun p => !p.isDone && p.runningAt?.isNone with
  | none =>
      intro p hp
      have hbusy := List.findIdx?_eq_none_iff.mp hfree p hp
      cases p <;> simp_all [Phase.isDone, Phase.runningAt?, Phase.inFlight]
  | some v =>
      -- A worker that is free is chosen before one whose operation runs.
      obtain ⟨hlt, hfits, -⟩ := List.findIdx?_eq_some_iff_getElem.mp hfree
      simp only [Bool.and_eq_true, Bool.not_eq_true', Option.isNone_iff_eq_none] at hfits
      have hpick : byRank rank n t = v := by simp [byRank, hfree]
      have hv : t.workers[v]? = some t.workers[v] := List.getElem?_eq_getElem hlt
      rw [choose_of_eq hpick hv hfits.1] at hchoose
      obtain rfl := Option.some.inj hchoose
      rw [Option.some.inj (hv.symm.trans hw)] at hfits
      cases hfits.2

end Schedule

variable {policy : Policy} {hosts : HostSet} {s s' : State hosts.size} {l : Label}
  {labels : List Label}

theorem Schedule.Eager.of_chosen {pick : Schedule} (hpick : pick.Eager)
    (h : Along policy hosts pick.Chooses (State.initial policy hosts) labels) :
    Dispatch.Eager policy hosts labels := by
  intro before l after t hsplit ht hfinish
  have hchosen := h before l after t hsplit ht
  cases l with
  | move w => cases hfinish
  | finish w e =>
      obtain ⟨hw, i, hi⟩ := hchosen
      exact hpick hosts.size t w i hw hi

/-! ## Operations that have ended -/

/-- What the operations answered that have ended, in that order. -/
def answers (journal : List Event) : List Answer :=
  journal.filterMap Event.answer?

@[simp] theorem answers_append (es fs : List Event) :
    answers (es ++ fs) = answers es ++ answers fs := by
  simp [answers]

theorem fallen_eq_nil_iff {journal : List Event} :
    fallen journal = [] ↔ ∀ a ∈ answers journal, a.outcome.isFailure = false := by
  induction journal with
  | nil => simp [answers]
  | cons e es ih =>
      cases e with
      | executed h a => cases ha : a.outcome.isFailure <;> simp_all [fallen, answers, Event.fell?,
          Event.answer?]
      | _ => simpa [fallen, answers, Event.fell?, Event.answer?] using ih

/-- Counts a worker whose operation has ended and is not recorded. -/
def Phase.unrecorded {n : Nat} : Phase n → Nat
  | .failing _ _ => 1
  | .settled _ _ => 1
  | .announced _ _ => 1
  | _ => 0

/-- Before the token fires, every outcome is that of an operation that has ended. -/
theorem Action.length_answers (ha : Action policy hosts s l s') (hl : Ledger hosts s)
    (h : s.cancelled = false → (answers s.journal).length =
      s.collector.stored.length + weigh Phase.unrecorded s.workers)
    (hc' : s'.cancelled = false) : (answers s'.journal).length =
      s'.collector.stored.length + weigh Phase.unrecorded s'.workers := by
  cases ha with
  | pull hw hn =>
      have hsum := weigh_set Phase.unrecorded (q := .holding ⟨s.next, hn⟩) hw
      have := h hc'
      simp only [State.put, Phase.unrecorded] at hsum ⊢
      omega
  | leave hw hn =>
      have hsum := weigh_set Phase.unrecorded (q := .done) hw
      have := h hc'
      simp only [State.put, Phase.unrecorded] at hsum ⊢
      omega
  | record hw hc =>
      obtain rfl := Collector.eq_of_record_eq_ok hc
      have hsum := weigh_set Phase.unrecorded (q := .idle) hw
      have := h hc'
      simp only [State.put, Phase.unrecorded, List.length_append, List.length_singleton] at hsum ⊢
      omega
  | refuse r hw hc =>
      rw [hl.record_eq_ok hw] at hc
      cases hc
  | @advance w i l p p' es fired hw ha =>
      have hsum := weigh_set Phase.unrecorded (q := p') hw
      have hfired : fired = false := hc'
      have hc : s.cancelled = false := by
        by_contra hc
        have := Move.fired (.advance ha) (by simpa using hc)
        simp [hfired] at this
      have hgrown : p.unrecorded + (answers es).length = p'.unrecorded := by
        cases ha with
        | skip hskip => rw [hc] at hskip; cases hskip
        | fire => cases hfired
        | refire => cases hfired
        | _ => simp [Phase.unrecorded, answers, Event.answer?]
      have := h hc
      simp only [State.put, State.note, answers_append, List.length_append] at hsum ⊢
      omega

theorem length_answers_of_steps
    (h : steps policy hosts (State.initial policy hosts) labels = some s)
    (hc : s.cancelled = false) : (answers s.journal).length =
      s.collector.stored.length + weigh Phase.unrecorded s.workers := by
  have hrun := steps_induction (P := fun s => Ledger hosts s ∧ (s.cancelled = false →
      (answers s.journal).length =
        s.collector.stored.length + weigh Phase.unrecorded s.workers))
    (fun ⟨hl, hlen⟩ ha => ⟨hl.action ha, fun hc' => ha.length_answers hl hlen hc'⟩) h
    ⟨.initial policy hosts, fun _ => by
      simp [State.initial, answers, Collector.ofIds, weigh_replicate, Phase.unrecorded]⟩
  exact hrun.2 hc

/-! ## Hosts that have been taken -/

theorem Ledger.length_taken (h : Ledger hosts s) :
    (held s.workers).length + s.collector.stored.length = min s.next hosts.size := by
  have hlen := h.taken.length_eq
  rwa [accounted, List.length_append, List.length_map, List.length_map, List.length_take,
    length_ids] at hlen

namespace State.AtRest

theorem length_held {n : Nat} {workers : List (Phase n)}
    (h : ∀ p ∈ workers, p.isDone = true ∨ p.inFlight = 1) :
    (held workers).length + weigh Phase.left workers = workers.length ∧
      weigh Phase.unrecorded workers = 0 := by
  induction workers with
  | nil => exact ⟨rfl, rfl⟩
  | cons p ps ih =>
      obtain ⟨hheld, hnone⟩ := ih fun q hq => h q (List.mem_cons_of_mem p hq)
      have hp := h p List.mem_cons_self
      cases p <;> simp [Phase.isDone, Phase.inFlight] at hp <;>
        simp only [held, List.filterMap_cons, Phase.place?, weigh, Phase.left, Phase.isDone,
          Phase.unrecorded, List.length_cons, Bool.toNat_false, Bool.toNat_true] at hheld ⊢ <;>
        omega

/-- While no operation has failed, a pool at rest has taken one host for each operation that has ended
and one for each worker, as far as there are hosts. -/
theorem min_next (hrest : s.AtRest)
    (h : steps policy hosts (State.initial policy hosts) labels = some s)
    (hc : s.cancelled = false) : min s.next hosts.size =
      min hosts.size ((answers s.journal).length + State.poolSize policy hosts.size) := by
  obtain ⟨hheld, hnone⟩ := length_held hrest
  have htaken := (Ledger.of_steps h).length_taken
  have hended := length_answers_of_steps h hc
  have hcount := counted_of_steps h
  rw [length_workers_of_steps h] at hheld
  simp only [Counted] at hcount
  omega

end State.AtRest

end Fanout.Dispatch
