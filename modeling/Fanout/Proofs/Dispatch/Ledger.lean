import Fanout.Proofs.Collector
import Fanout.Proofs.Dispatch.Trail

/-!
# Where every host is

The invariant of the pool. The hosts taken from the queue are, each once, in the hands of a worker or
recorded; what the journal tells of a host fits the place where it is. So the collector never sees a
host twice or one it does not expect, and when every worker has left its loop it has them all.
-/
namespace Fanout.Dispatch

/-! ## What workers have in their hands -/

def held {n : Nat} (workers : List (Phase n)) : List (Fin n) :=
  workers.filterMap Phase.place?

section Held

variable {n : Nat} {workers : List (Phase n)} {w : Nat} {p q r : Phase n} {i : Fin n}

theorem held_set_of_eq (hw : workers[w]? = some p) (h : q.place? = p.place?) :
    held (workers.set w q) = held workers := by
  induction workers generalizing w with
  | nil => rfl
  | cons r rs ih =>
      cases w with
      | zero =>
          obtain rfl : r = p := by simpa using hw
          simp [held, List.filterMap_cons, h]
      | succ w =>
          have := ih (by simpa using hw)
          simp only [held] at this
          simp [held, List.filterMap_cons, this]

theorem held_set_of_none (hw : workers[w]? = some p) (hp : p.place? = none)
    (hq : q.place? = some i) : (held (workers.set w q)).Perm (i :: held workers) := by
  induction workers generalizing w with
  | nil => simp at hw
  | cons r rs ih =>
      cases w with
      | zero =>
          obtain rfl : r = p := by simpa using hw
          simp [held, hp, hq]
      | succ w =>
          have := ih (by simpa using hw)
          simp only [held] at this
          cases hr : r.place? with
          | none => simpa [held, List.filterMap_cons, hr] using this
          | some j =>
              simp only [held, List.set_cons_succ, List.filterMap_cons, hr]
              exact (this.cons j).trans (.swap i j _)

theorem held_perm_of_set (hw : workers[w]? = some p) (hp : p.place? = some i)
    (hq : q.place? = none) : (held workers).Perm (i :: held (workers.set w q)) := by
  have hlt : w < workers.length := (List.getElem?_eq_some_iff.mp hw).1
  have hback : (workers.set w q).set w p = workers := by
    rw [List.set_set, ← (List.getElem?_eq_some_iff.mp hw).2, List.set_getElem_self]
  have hset : (workers.set w q)[w]? = some q := by
    rw [List.getElem?_set_self hlt]
  simpa only [hback] using held_set_of_none hset hq hp

theorem mem_held (hw : workers[w]? = some p) (hp : p.place? = some i) : i ∈ held workers :=
  List.mem_filterMap.mpr ⟨p, List.mem_of_getElem? hw, hp⟩

/-- No host is in the hands of two workers if none is held twice. -/
theorem eq_of_held_nodup {v : Nat} (hnd : (held workers).Nodup)
    (hw : workers[w]? = some p) (hp : p.place? = some i) (hv : workers[v]? = some r)
    (hr : r.place? = some i) : w = v := by
  obtain ⟨hwl, rfl⟩ := List.getElem?_eq_some_iff.mp hw
  obtain ⟨hvl, rfl⟩ := List.getElem?_eq_some_iff.mp hv
  rw [held, List.Nodup, List.pairwise_filterMap, List.pairwise_iff_getElem] at hnd
  rcases Nat.lt_trichotomy w v with hlt | heq | hgt
  · exact absurd rfl (hnd w v hwl hvl hlt i hp i hr)
  · exact heq
  · exact absurd rfl (hnd v w hvl hwl hgt i hr i hp)

/-- After one worker's phase is replaced, a phase found is the new one or was there before. -/
theorem eq_or_of_getElem?_set {v : Nat} (h : (workers.set w q)[v]? = some r) :
    (v = w ∧ r = q) ∨ (v ≠ w ∧ workers[v]? = some r) := by
  by_cases hvw : w = v
  · subst hvw
    have hlt : w < workers.length := by simpa using (List.getElem?_eq_some_iff.mp h).1
    rw [List.getElem?_set_self hlt] at h
    exact Or.inl ⟨rfl, (Option.some.inj h).symm⟩
  · rw [List.getElem?_set_ne hvw] at h
    exact Or.inr ⟨fun he => hvw he.symm, h⟩

theorem mem_of_mem_set (h : r ∈ workers.set w q) (hne : r ≠ q) : r ∈ workers :=
  (List.mem_or_eq_of_mem_set h).resolve_right hne

end Held

/-! ## The invariant -/

/-- The ids of the hosts taken from the queue: those in workers' hands, then those recorded. -/
def accounted (hosts : HostSet) (s : State hosts.size) : List String :=
  (held s.workers).map (fun i => (hostAt hosts i).id) ++ s.collector.stored.map Prod.fst

structure Ledger (hosts : HostSet) (s : State hosts.size) : Prop where
  taken : (accounted hosts s).Perm (hosts.ids.take s.next)
  expected : s.collector.expected = hosts.ids
  faultless : s.fault = none
  drained : Phase.done ∈ s.workers → hosts.size ≤ s.next
  waiting : ∀ i : Fin hosts.size, s.next ≤ i → trail (hostAt hosts i) s.journal = []
  inHand : ∀ (w : Nat) (p : Phase hosts.size) (i : Fin hosts.size), s.workers[w]? = some p →
    p.place? = some i → Tells (hostAt hosts i) i p (trail (hostAt hosts i) s.journal)
  recorded : ∀ (i : Fin hosts.size) (o : Outcome), ((hostAt hosts i).id, o) ∈ s.collector.stored →
    Closed (hostAt hosts i) o (trail (hostAt hosts i) s.journal)

namespace Ledger

variable {policy : Policy} {hosts : HostSet} {s s' : State hosts.size} {l : Label}

theorem initial (policy : Policy) (hosts : HostSet) : Ledger hosts (State.initial policy hosts) where
  taken := by
    have h : held (List.replicate (State.poolSize policy hosts.size) (Phase.idle (n := hosts.size))) = [] := by
      simp [held, Phase.place?]
    simp [accounted, State.initial, h, Collector.ofIds]
  expected := Collector.expected_ofIds (nodup_ids hosts)
  faultless := rfl
  drained := by simp [State.initial]
  waiting := by simp [State.initial]
  inHand := by
    intro w p i hw hp
    obtain rfl := List.eq_of_mem_replicate (List.mem_of_getElem? hw)
    cases hp
  recorded := by simp [State.initial, Collector.ofIds]

theorem nodup (h : Ledger hosts s) : (accounted hosts s).Nodup :=
  h.taken.nodup_iff.mpr ((nodup_ids hosts).sublist (List.take_sublist _ _))

theorem held_nodup (h : Ledger hosts s) : (held s.workers).Nodup :=
  List.Nodup.of_map _ (List.nodup_append.mp h.nodup).1

/-- A host in hand has been taken from the queue. -/
theorem lt_next (h : Ledger hosts s) {i : Fin hosts.size} (hi : i ∈ held s.workers) :
    i.val < s.next := by
  have hmem : (hostAt hosts i).id ∈ hosts.ids.take s.next :=
    h.taken.subset (List.mem_append_left _ (List.mem_map_of_mem hi))
  obtain ⟨j, hj, hid⟩ := List.getElem_of_mem hmem
  rw [List.length_take] at hj
  have hij : hosts.ids[i.val]? = hosts.ids[j]? := by
    rw [getElem?_ids, ← hid, List.getElem_take, List.getElem?_eq_getElem]
  have hlt : i.val < hosts.ids.length := by rw [length_ids]; exact i.isLt
  have := (List.getElem?_inj hlt (nodup_ids hosts)).mp hij
  omega

theorem not_recorded (h : Ledger hosts s) {i : Fin hosts.size} (hi : i ∈ held s.workers) :
    (hostAt hosts i).id ∉ s.collector.stored.map Prod.fst := fun hmem =>
  (List.nodup_append.mp h.nodup).2.2 _ (List.mem_map_of_mem hi) _ hmem rfl

/-- The collector takes every outcome it is given. -/
theorem record_eq_ok (h : Ledger hosts s) {w : Nat} {i : Fin hosts.size} {o : Outcome}
    (hw : s.workers[w]? = some (.announced i o)) :
    s.collector.record (hostAt hosts i).id o =
      .ok { s.collector with stored := s.collector.stored ++ [((hostAt hosts i).id, o)] } :=
  Collector.record_eq_ok (h.expected ▸ id_mem_ids i) (h.not_recorded (mem_held hw rfl))

/-! ## One step -/

theorem pull (h : Ledger hosts s) {w : Nat} (hw : s.workers[w]? = some .idle)
    (hn : s.next < hosts.size) :
    Ledger hosts ({ s with next := s.next + 1 }.put w (.holding ⟨s.next, hn⟩)) where
  taken := by
    have htake : hosts.ids.take (s.next + 1) =
        hosts.ids.take s.next ++ [(hostAt hosts ⟨s.next, hn⟩).id] := by
      rw [List.take_add_one, getElem?_ids ⟨s.next, hn⟩]
      rfl
    have hheld := (held_set_of_none (q := .holding ⟨s.next, hn⟩) hw rfl rfl).map
      fun i => (hostAt hosts i).id
    show (accounted hosts _).Perm (hosts.ids.take (s.next + 1))
    rw [htake]
    exact (hheld.append_right _).trans ((h.taken.cons _).trans (List.perm_append_singleton _ _).symm)
  expected := h.expected
  faultless := h.faultless
  drained := fun hd => Nat.le_succ_of_le (h.drained (mem_of_mem_set hd (by simp)))
  waiting := fun i hi => h.waiting i (Nat.le_of_succ_le hi)
  inHand := by
    intro v p i hv hp
    rcases eq_or_of_getElem?_set hv with ⟨-, rfl⟩ | ⟨-, hv⟩
    · cases hp
      simpa only [State.put, h.waiting ⟨s.next, hn⟩ (Nat.le_refl _)] using Tells.holding
    · exact h.inHand v p i hv hp
  recorded := h.recorded

theorem leave (h : Ledger hosts s) {w : Nat} (hw : s.workers[w]? = some .idle)
    (hn : hosts.size ≤ s.next) : Ledger hosts ({ s with next := s.next + 1 }.put w .done) where
  taken := by
    have hlen : hosts.ids.length ≤ s.next := by rw [length_ids]; exact hn
    have hheld : held (s.workers.set w .done) = held s.workers := held_set_of_eq hw rfl
    have ht := h.taken
    rw [List.take_of_length_le hlen] at ht
    simpa only [accounted, State.put, hheld, List.take_of_length_le (Nat.le_succ_of_le hlen)]
  expected := h.expected
  faultless := h.faultless
  drained := fun _ => Nat.le_succ_of_le hn
  waiting := fun i hi => h.waiting i (Nat.le_of_succ_le hi)
  inHand := by
    intro v p i hv hp
    rcases eq_or_of_getElem?_set hv with ⟨-, rfl⟩ | ⟨-, hv⟩
    · cases hp
    · exact h.inHand v p i hv hp
  recorded := h.recorded

theorem advance (h : Ledger hosts s) {w : Nat} {i : Fin hosts.size} {p p' : Phase hosts.size}
    {es : List Event} {fired : Bool} (hw : s.workers[w]? = some p)
    (ha : Advance policy hosts w i s.cancelled l p p' es fired) :
    Ledger hosts (({ s with cancelled := fired }.put w p').note es) := by
  obtain ⟨hp, hp'⟩ := ha.place?_eq
  have hi : i ∈ held s.workers := mem_held hw hp
  -- Only the host that is moved on has new events in its trail.
  have htrail : ∀ j, j ≠ i → trail (hostAt hosts j) (s.journal ++ es) =
      trail (hostAt hosts j) s.journal := by
    intro j hj
    rw [trail_append, ha.trail_of_ne (hostAt_ne hj.symm), List.append_nil]
  constructor
  case taken =>
    have hheld : held (s.workers.set w p') = held s.workers :=
      held_set_of_eq hw (hp'.trans hp.symm)
    simpa only [accounted, State.put, State.note, hheld] using h.taken
  case expected => exact h.expected
  case faultless => exact h.faultless
  case drained =>
    intro hd
    refine h.drained (mem_of_mem_set hd ?_)
    rintro rfl
    cases hp'
  case waiting =>
    intro j hj
    have hlt := h.lt_next hi
    have hji : j ≠ i := by rintro rfl; exact absurd hj (Nat.not_le.mpr hlt)
    exact (htrail j hji).trans (h.waiting j hj)
  case inHand =>
    intro v q j hv hq
    rcases eq_or_of_getElem?_set hv with ⟨rfl, rfl⟩ | ⟨hvw, hv⟩
    · obtain rfl : i = j := Option.some.inj (hp'.symm.trans hq)
      simpa only [State.put, State.note, trail_append] using ha.tells (h.inHand v p i hw hp)
    · have hji : j ≠ i := by
        rintro rfl
        exact hvw (eq_of_held_nodup h.held_nodup hv hq hw hp)
      simpa only [State.put, State.note, htrail j hji] using h.inHand v q j hv hq
  case recorded =>
    intro j o hjo
    have hji : j ≠ i := by
      rintro rfl
      exact h.not_recorded hi (List.mem_map_of_mem hjo)
    simpa only [State.put, State.note, htrail j hji] using h.recorded j o hjo

theorem record (h : Ledger hosts s) {w : Nat} {i : Fin hosts.size} {o : Outcome} {c : Collector}
    (hw : s.workers[w]? = some (.announced i o))
    (hc : s.collector.record (hostAt hosts i).id o = .ok c) :
    Ledger hosts ({ s with collector := c }.put w .idle) := by
  obtain rfl := Collector.eq_of_record_eq_ok hc
  constructor
  case taken =>
    have hheld := (held_perm_of_set (q := .idle) hw rfl rfl).map fun i => (hostAt hosts i).id
    refine .trans ?_ h.taken
    simp only [accounted, State.put, List.map_append, List.map_cons, List.map_nil]
    rw [← List.append_assoc]
    exact List.perm_append_comm.trans (hheld.symm.append_right _)
  case expected => exact h.expected
  case faultless => exact h.faultless
  case drained => exact fun hd => h.drained (mem_of_mem_set hd (by simp))
  case waiting => exact h.waiting
  case inHand =>
    intro v p j hv hp
    rcases eq_or_of_getElem?_set hv with ⟨-, rfl⟩ | ⟨-, hv⟩
    · cases hp
    · exact h.inHand v p j hv hp
  case recorded =>
    intro j o' hjo
    rcases List.mem_append.mp hjo with hjo | hjo
    · exact h.recorded j o' hjo
    · obtain ⟨hid, rfl⟩ : (hostAt hosts j).id = (hostAt hosts i).id ∧ o' = o := by simpa using hjo
      obtain rfl := eq_of_id_eq hid
      cases h.inHand w _ j hw rfl with
      | announced hclosed => exact hclosed

theorem action (h : Ledger hosts s) (ha : Action policy hosts s l s') : Ledger hosts s' := by
  cases ha with
  | pull hw hn => exact h.pull hw hn
  | leave hw hn => exact h.leave hw hn
  | advance hw ha => exact h.advance hw ha
  | record hw hc => exact h.record hw hc
  | refuse r hw hc =>
      rw [h.record_eq_ok hw] at hc
      cases hc

/-! ## Whole runs -/

theorem of_steps {labels : List Label}
    (h : steps policy hosts (State.initial policy hosts) labels = some s) : Ledger hosts s :=
  steps_induction Ledger.action h (.initial policy hosts)

end Ledger

end Fanout.Dispatch
