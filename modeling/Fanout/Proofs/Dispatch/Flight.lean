import Fanout.Proofs.Dispatch.Driving
import Fanout.Proofs.Dispatch.Token
import Mathlib.Data.List.Perm.Subperm

/-!
# How many operations run at once

What the journal tells of operations that were started and are not over, they are in the hands of
workers, so there are never more of them than workers. The queue counter is at the number of hosts
taken plus that of the workers that found no more, which bounds it and shows that no worker leaves its
loop before the queue is empty.
-/
namespace Fanout.Dispatch

variable {policy : Policy} {hosts : HostSet} {s s' : State hosts.size} {l : Label}
  {labels : List Label}

/-! ## What the journal of a pool is about -/

/-- What a pool notes between its first step and its last. -/
inductive Event.Within (hosts : HostSet) : Event → Prop where
  | started (i : Fin hosts.size) : Within hosts (.started (hostAt hosts i))
  | executed (i : Fin hosts.size) (a : Answer) : Within hosts (.executed (hostAt hosts i) a)
  | completed (i : Fin hosts.size) (o : Outcome) : Within hosts (.completed (hostAt hosts i) o)
  | logged (r : Log.Record) : Within hosts (.logged r)

theorem within_finish (i : Fin hosts.size) (e : Execution) :
    ∀ x ∈ e.log.map Event.logged ++ [.executed (hostAt hosts i) e.answer], x.Within hosts := by
  intro x hx
  rcases List.mem_append.mp hx with hx | hx
  · obtain ⟨r, -, rfl⟩ := List.mem_map.mp hx
    exact .logged r
  · obtain rfl := List.mem_singleton.mp hx
    exact .executed i e.answer

theorem Advance.within {w : Nat} {i : Fin hosts.size} {c fired : Bool} {p p' : Phase hosts.size}
    {es : List Event} (ha : Advance policy hosts w i c l p p' es fired) :
    ∀ x ∈ es, x.Within hosts := by
  cases ha with
  | clear => exact List.forall_mem_nil _
  | skip => exact List.forall_mem_nil _
  | start => exact List.forall_mem_singleton.mpr (.started i)
  | fail e => exact within_finish i e
  | settle e => exact within_finish i e
  | fire => exact List.forall_mem_singleton.mpr (.logged _)
  | refire => exact List.forall_mem_nil _
  | announce o => exact List.forall_mem_singleton.mpr (.completed i o)

theorem Action.within (ha : Action policy hosts s l s') (h : ∀ x ∈ s.journal, x.Within hosts) :
    ∀ x ∈ s'.journal, x.Within hosts := by
  cases ha with
  | pull => exact h
  | leave => exact h
  | record => exact h
  | advance hw ha => exact List.forall_mem_append.mpr ⟨h, ha.within⟩
  | refuse r => exact List.forall_mem_append.mpr ⟨h, List.forall_mem_singleton.mpr (.logged r)⟩

theorem within_of_steps (h : steps policy hosts (State.initial policy hosts) labels = some s) :
    ∀ x ∈ s.journal, x.Within hosts :=
  steps_induction (P := fun s => ∀ x ∈ s.journal, x.Within hosts) (fun hs ha => ha.within hs) h
    (List.forall_mem_nil _)

/-! ## Hosts that were started -/

def Event.started? : Event → Option Host
  | .started h => some h
  | _ => none

def Event.executed? : Event → Option Host
  | .executed h _ => some h
  | _ => none

def Event.completed? : Event → Option Host
  | .completed h _ => some h
  | _ => none

/-- The hosts whose operation was started, as often as it was. -/
def startedHosts (journal : List Event) : List Host :=
  journal.filterMap Event.started?

/-- The hosts that were started and of which the journal has no event of a closing kind. -/
def unclosed (closes : Event → Option Host) (journal : List Event) : List Host :=
  (startedHosts journal).filter fun h => h ∉ journal.filterMap closes

/-- The hosts whose operation is in flight. -/
def inFlight (journal : List Event) : List Host :=
  unclosed Event.executed? journal

theorem mem_startedHosts {h : Host} {journal : List Event} :
    h ∈ startedHosts journal ↔ .started h ∈ journal := by
  simp only [startedHosts, List.mem_filterMap]
  constructor
  · rintro ⟨e, he, hh⟩
    cases e <;> cases hh
    exact he
  · intro hh
    exact ⟨_, hh, rfl⟩

theorem mem_inFlight {h : Host} {journal : List Event} : h ∈ inFlight journal ↔
    .started h ∈ trail h journal ∧ ∀ a, .executed h a ∉ trail h journal := by
  simp only [inFlight, unclosed, List.mem_filter, decide_eq_true_eq, mem_startedHosts, mem_trail,
    Event.host?, and_true, List.mem_filterMap, not_exists, not_and]
  refine and_congr_right fun _ => ⟨fun hopen a ha => hopen _ ha rfl, fun hopen e he hh => ?_⟩
  cases e <;> cases hh
  exact hopen _ he

theorem count_startedHosts (h : Host) (journal : List Event) :
    (startedHosts journal).count h = (startedHosts (trail h journal)).length := by
  have hone : ∀ e : Event, (e.started? == some h) = (e.started?.isSome && e.host? = some h) := by
    intro e
    cases e <;> simp [Event.started?, Event.host?, beq_eq_decide]
  simp only [startedHosts, trail, List.count_filterMap, List.length_filterMap_eq_countP,
    List.countP_filter, hone]

theorem Reached.length_startedHosts {h : Host} {o : Outcome} {t : List Event}
    (hr : Reached h o t) : (startedHosts t).length = if o = .cancelled then 0 else 1 := by
  cases hr with
  | ran a => rw [if_neg (outcome_ne_cancelled a)]; rfl
  | skipped => rfl

theorem Closed.length_startedHosts {h : Host} {o : Outcome} {t : List Event}
    (hc : Closed h o t) : (startedHosts t).length = if o = .cancelled then 0 else 1 := by
  obtain ⟨r, hr, rfl⟩ := hc
  have hlast : startedHosts (r ++ [.completed h o]) = startedHosts r := by
    simp [startedHosts, List.filterMap_cons, Event.started?]
  rw [hlast, hr.length_startedHosts]

theorem Tells.length_startedHosts_le {n : Nat} {h : Host} {i : Fin n} {p : Phase n}
    {t : List Event} (ht : Tells h i p t) : (startedHosts t).length ≤ 1 := by
  cases ht with
  | holding => exact Nat.zero_le 1
  | cleared => exact Nat.zero_le 1
  | running => exact Nat.le_refl 1
  | failing => exact Nat.le_refl 1
  | settled hr => rw [hr.length_startedHosts]; split <;> decide
  | announced hc => rw [hc.length_startedHosts]; split <;> decide

/-! ## Where a host is -/

namespace Ledger

theorem inHand_or_closed (h : Ledger hosts s) {i : Fin hosts.size} (hlt : i.val < s.next) :
    (∃ p ∈ s.workers, p.place? = some i ∧
      Tells (hostAt hosts i) i p (trail (hostAt hosts i) s.journal)) ∨
    ∃ o, Closed (hostAt hosts i) o (trail (hostAt hosts i) s.journal) := by
  have hmem : (hostAt hosts i).id ∈ hosts.ids.take s.next :=
    List.mem_of_getElem? ((List.getElem?_take_of_lt hlt).trans (getElem?_ids i))
  rcases List.mem_append.mp (h.taken.mem_iff.mpr hmem) with hheld | hstored
  · obtain ⟨j, hj, hid⟩ := List.mem_map.mp hheld
    obtain rfl := eq_of_id_eq hid
    obtain ⟨p, hp, hplace⟩ := List.mem_filterMap.mp hj
    obtain ⟨w, hw⟩ := List.getElem?_of_mem hp
    exact Or.inl ⟨p, hp, hplace, h.inHand w p j hw hplace⟩
  · obtain ⟨⟨id, o⟩, hmem, rfl⟩ := List.mem_map.mp hstored
    exact Or.inr ⟨o, h.recorded i o hmem⟩

/-- A host has not been taken yet, or is in the hands of a worker, or has been recorded. -/
theorem whereabouts (h : Ledger hosts s) (i : Fin hosts.size) :
    trail (hostAt hosts i) s.journal = [] ∨
    (∃ p ∈ s.workers, p.place? = some i ∧
      Tells (hostAt hosts i) i p (trail (hostAt hosts i) s.journal)) ∨
    ∃ o, Closed (hostAt hosts i) o (trail (hostAt hosts i) s.journal) := by
  rcases Nat.lt_or_ge i.val s.next with hlt | hge
  · exact Or.inr (h.inHand_or_closed hlt)
  · exact Or.inl (h.waiting i hge)

theorem nodup_startedHosts (h : Ledger hosts s) (hw : ∀ x ∈ s.journal, x.Within hosts) :
    (startedHosts s.journal).Nodup := by
  refine List.nodup_iff_count_le_one.mpr fun x => ?_
  by_cases hx : .started x ∈ s.journal
  · cases hw _ hx with
    | started i =>
        rw [count_startedHosts]
        rcases h.whereabouts i with ht | ⟨p, -, -, ht⟩ | ⟨o, hc⟩
        · rw [ht]
          exact Nat.zero_le 1
        · exact ht.length_startedHosts_le
        · rw [hc.length_startedHosts]
          split <;> decide
  · rw [List.count_eq_zero.mpr fun hmem => hx (mem_startedHosts.mp hmem)]
    exact Nat.zero_le 1

/-- A host that was started and has no closing event is in the hands of a worker. -/
theorem unclosed_subset (h : Ledger hosts s) (hw : ∀ x ∈ s.journal, x.Within hosts)
    {closes : Event → Option Host}
    (hcloses : ∀ x a, x ∈ [.executed x a, .completed x a.outcome].filterMap closes) :
    unclosed closes s.journal ⊆ (held s.workers).map (hostAt hosts) := by
  intro x hx
  simp only [unclosed, List.mem_filter, decide_eq_true_eq] at hx
  obtain ⟨hstart, hopen⟩ := hx
  rw [mem_startedHosts] at hstart
  cases hw _ hstart with
  | started i =>
      have hmem : .started (hostAt hosts i) ∈ trail (hostAt hosts i) s.journal :=
        mem_trail.mpr ⟨hstart, rfl⟩
      rcases h.whereabouts i with ht | ⟨p, hp, hplace, -⟩ | ⟨o, r, hr, ht⟩
      · rw [ht] at hmem
        cases hmem
      · exact List.mem_map_of_mem (List.mem_filterMap.mpr ⟨p, hp, hplace⟩)
      · -- A recorded host that was started has all its events in the journal.
        cases hr with
        | skipped => simp [ht] at hmem
        | ran a =>
            refine absurd ?_ hopen
            have hsub : [.executed (hostAt hosts i) a, .completed (hostAt hosts i) a.outcome] ⊆
                s.journal := by
              intro e he
              have hmem : e ∈ trail (hostAt hosts i) s.journal := by
                rw [ht]
                exact List.mem_cons_of_mem _ he
              exact (mem_trail.mp hmem).1
            exact List.filterMap_subset _ hsub (hcloses _ a)

theorem length_unclosed_le (h : Ledger hosts s) (hw : ∀ x ∈ s.journal, x.Within hosts)
    {closes : Event → Option Host}
    (hcloses : ∀ x a, x ∈ [.executed x a, .completed x a.outcome].filterMap closes) :
    (unclosed closes s.journal).length ≤ s.workers.length :=
  calc (unclosed closes s.journal).length
    _ ≤ ((held s.workers).map (hostAt hosts)).length :=
      (List.Nodup.subperm ((h.nodup_startedHosts hw).filter _) (h.unclosed_subset hw hcloses)).length_le
    _ = (held s.workers).length := List.length_map _
    _ ≤ s.workers.length := List.length_filterMap_le _ _

theorem mem_inFlight_iff (h : Ledger hosts s) (hw : ∀ x ∈ s.journal, x.Within hosts) {x : Host} :
    x ∈ inFlight s.journal ↔ ∃ i, .running i ∈ s.workers ∧ x = hostAt hosts i := by
  constructor
  · intro hx
    obtain ⟨i, hi, rfl⟩ :=
      List.mem_map.mp (h.unclosed_subset hw (by simp [Event.executed?]) hx)
    obtain ⟨p, hp, hplace⟩ := List.mem_filterMap.mp hi
    obtain ⟨w, hpw⟩ := List.getElem?_of_mem hp
    have ht := h.inHand w p i hpw hplace
    obtain ⟨hstart, hopen⟩ := mem_inFlight.mp hx
    generalize trail (hostAt hosts i) s.journal = t at ht hstart hopen
    cases ht with
    | running => exact ⟨i, hp, rfl⟩
    | holding => cases hstart
    | cleared => cases hstart
    | failing =>
        rename_i a hf
        exact absurd (by simp) (hopen a)
    | settled hr =>
        cases hr with
        | ran a => exact absurd (by simp) (hopen a)
        | skipped => cases hstart
    | announced hc =>
        obtain ⟨r, hr, rfl⟩ := hc
        cases hr with
        | ran a => exact absurd (by simp) (hopen a)
        | skipped => simp at hstart
  · rintro ⟨i, hi, rfl⟩
    obtain ⟨w, hpw⟩ := List.getElem?_of_mem hi
    have ht := h.inHand w _ i hpw rfl
    rw [mem_inFlight]
    generalize trail (hostAt hosts i) s.journal = t at ht
    cases ht
    simp

end Ledger

/-! ## The queue counter -/

/-- Counts a worker that has left its loop. -/
def Phase.left {n : Nat} (p : Phase n) : Nat :=
  p.isDone.toNat

theorem Advance.left_eq_zero {w : Nat} {i : Fin hosts.size} {c fired : Bool}
    {p p' : Phase hosts.size} {es : List Event}
    (ha : Advance policy hosts w i c l p p' es fired) : p.left = 0 ∧ p'.left = 0 := by
  cases ha <;> exact ⟨rfl, rfl⟩

/-- The counter has passed every host taken, and once more for every worker that found none. -/
def Counted {n : Nat} (s : State n) : Prop :=
  s.next = min s.next n + weigh Phase.left s.workers

theorem Action.counted (ha : Action policy hosts s l s') (h : Counted s) : Counted s' := by
  have hkeep : ∀ {w : Nat} {p q : Phase hosts.size}, s.workers[w]? = some p → q.left = p.left →
      weigh Phase.left (s.workers.set w q) = weigh Phase.left s.workers := by
    intro w p q hw hpq
    have := weigh_set Phase.left (q := q) hw
    omega
  simp only [Counted] at h ⊢
  cases ha with
  | pull hw hn =>
      simp only [State.put, hkeep (q := .holding ⟨s.next, hn⟩) hw rfl]
      omega
  | leave hw hn =>
      have := weigh_set Phase.left (q := .done) hw
      simp only [Phase.left, Phase.isDone, Bool.toNat_false, Bool.toNat_true] at this
      simp only [State.put]
      omega
  | advance hw ha =>
      obtain ⟨hp, hp'⟩ := ha.left_eq_zero
      simpa only [State.put, State.note, hkeep hw (hp'.trans hp.symm)] using h
  | record hw hc => simpa only [State.put, hkeep (q := .idle) hw rfl] using h
  | refuse r hw hc => simpa only [State.put, State.note, hkeep (q := .idle) hw rfl] using h

theorem counted_of_steps (h : steps policy hosts (State.initial policy hosts) labels = some s) :
    Counted s := by
  refine steps_induction (fun hs ha => ha.counted hs) h ?_
  simp [Counted, State.initial, weigh_replicate, Phase.left, Phase.isDone]

theorem next_le (h : steps policy hosts (State.initial policy hosts) labels = some s) :
    s.next ≤ hosts.size + State.poolSize policy hosts.size := by
  have hcount := counted_of_steps h
  have hleft := weigh_le_length (f := Phase.left) (fun p => Bool.toNat_le p.isDone) s.workers
  rw [length_workers_of_steps h] at hleft
  simp only [Counted] at hcount
  omega

/-! ## The end of a run -/

theorem length_add_rank_le (h : steps policy hosts s labels = some s') :
    labels.length + s'.rank ≤ s.rank :=
  run_induction (P := fun ls t => ls.length + t.rank ≤ s.rank)
    (fun {ls s l s'} hs ha => by
      have := ha.rank_lt
      rw [List.length_append, List.length_singleton]
      omega) h (by simp)

/-- A worker that has not left its loop is never held up: it can move, or the operation it runs can
end in any way. -/
theorem exists_step_of_not_done {w : Nat} {p : Phase hosts.size} (hw : s.workers[w]? = some p)
    (hp : p.isDone = false) : (∃ s', step policy hosts s (.move w) = some s') ∨
      ∀ e, ∃ s', step policy hosts s (.finish w e) = some s' := by
  cases hrun : p.runningAt? with
  | none => exact Or.inl (exists_step_move hw hp hrun)
  | some i =>
      obtain rfl : p = .running i := by
        cases p <;> simp only [Phase.runningAt?, reduceCtorEq, Option.some.injEq] at hrun
        rw [hrun]
      exact Or.inr (exists_step_finish hw)

/-- In every reachable state no more operations are in flight than the policy allows or there are
hosts, each is run by a worker, and none was started twice. No worker leaves its loop while a host is
in the queue, and the queue counter stays within the hosts and the workers. No run is longer than the
step bound, and one that cannot go on is finished; then every host was started once, except those that
were cancelled. -/
theorem bounded_and_conserving (hj : policy.maxConcurrency ≠ 0)
    (h : steps policy hosts (State.initial policy hosts) labels = some s) :
    (inFlight s.journal).length ≤ min policy.maxConcurrency.toNat hosts.size ∧
    (∀ x, x ∈ inFlight s.journal ↔ ∃ i, .running i ∈ s.workers ∧ x = hostAt hosts i) ∧
    (startedHosts s.journal).Nodup ∧
    (s.Finished → ∃ m, s.outcomes = .ok m ∧ ∀ i, ∃ o, m.get? (hostAt hosts i).id = some o ∧
      (startedHosts s.journal).count (hostAt hosts i) = if o = .cancelled then 0 else 1) ∧
    (.done ∈ s.workers → hosts.size ≤ s.next) ∧
    s.next ≤ hosts.size + min policy.maxConcurrency.toNat hosts.size ∧
    (2 * hosts.size < UInt64.size → s.next < UInt64.size) ∧
    labels.length ≤ stepBound hosts.size (State.poolSize policy hosts.size) ∧
    (∀ (w : Nat) (p : Phase hosts.size), s.workers[w]? = some p → p.isDone = false →
      (∃ s', step policy hosts s (.move w) = some s') ∨
        ∀ e, ∃ s', step policy hosts s (.finish w e) = some s') := by
  have hl := Ledger.of_steps h
  have hw := within_of_steps h
  have hlen := length_workers_of_steps h
  have hnext := next_le h
  have hrank := length_add_rank_le h
  rw [rank_initial] at hrank
  simp only [State.poolSize] at hlen hnext
  refine ⟨hlen ▸ hl.length_unclosed_le hw (by simp [Event.executed?]), fun x => hl.mem_inFlight_iff hw,
    hl.nodup_startedHosts hw, fun hs => ?_, hl.drained, hnext, fun hn => by omega, by omega,
    fun w p hp hdone => exists_step_of_not_done hp hdone⟩
  obtain ⟨m, hm, -, houts⟩ := exists_outcomes_of_steps hj h hs
  refine ⟨m, hm, fun i => ?_⟩
  obtain ⟨o, ho, hc⟩ := houts i
  exact ⟨o, ho, (count_startedHosts _ _).trans hc.length_startedHosts⟩

theorem bounded_and_conserving_lateReader : stopping.maxConcurrency ≠ 0 ∧
    ∃ s, steps stopping twoHosts (State.initial stopping twoHosts) lateReader = some s ∧
      s.Finished ∧ (startedHosts s.journal).Nodup ∧ s.next ≤ 4 ∧
      ∃ m, s.outcomes = .ok m ∧ ∀ i, ∃ o, m.get? (hostAt twoHosts i).id = some o ∧
        (startedHosts s.journal).count (hostAt twoHosts i) = if o = .cancelled then 0 else 1 := by
  obtain ⟨s, -, hs, hdone, -⟩ := lateReader_ends
  obtain ⟨-, -, honce, hend, -, hnext, -⟩ := bounded_and_conserving (by decide) hs
  exact ⟨by decide, s, hs, hdone, honce, hnext, hend hdone⟩

end Fanout.Dispatch
