import Fanout.Proofs.Dispatch.Token
import Mathlib.Data.List.Perm.Subperm

/-!
# What fails, and what still ends

A worker that has met a failure under fail-fast never runs an operation again, so there are no more
failures than workers. Once the token has fired no worker takes an operation up, so all that still
ends is what the others had in flight.
-/
namespace Fanout.Dispatch

/-! ## Operations in flight -/

/-- Whether a worker is past the token and has not ended its operation. -/
def Phase.inFlight {n : Nat} : Phase n → Nat
  | .cleared _ => 1
  | .running _ => 1
  | _ => 0

theorem Phase.inFlight_le_one {n : Nat} (p : Phase n) : p.inFlight ≤ 1 := by
  cases p <;> simp [Phase.inFlight]

def Label.isFinish : Label → Bool
  | .move _ => false
  | .finish _ _ => true

variable {policy : Policy} {hosts : HostSet} {s s' : State hosts.size} {l : Label}
  {labels : List Label}

/-- Once the token has fired, a worker ends the operation it has in flight and takes none up. -/
theorem Move.inFlight_le {w : Nat} {c fired : Bool} {p q : Phase hosts.size}
    (hm : Move policy hosts w c l p q fired) (hc : c = true) :
    q.inFlight + [l].countP Label.isFinish ≤ p.inFlight := by
  subst hc
  cases hm with
  | take => exact Nat.le_refl _
  | leave => exact Nat.le_refl _
  | rest => exact Nat.le_refl _
  | advance ha =>
      cases ha with
      | clear h => cases h
      | fire h => cases h
      | _ => exact Nat.le_refl _

theorem Action.inFlight_le (ha : Action policy hosts s l s') (hc : s.cancelled = true) :
    s'.cancelled = true ∧
    weigh Phase.inFlight s'.workers + [l].countP Label.isFinish ≤
      weigh Phase.inFlight s.workers := by
  obtain ⟨w, p, q, hw, hset, hm⟩ := ha.exists_move
  have hsum := weigh_set Phase.inFlight (q := q) hw
  have hle := hm.inFlight_le hc
  rw [hset]
  exact ⟨hm.fired hc, by omega⟩

/-- All that ends after the token has fired was in flight then. -/
theorem finishes_le (h : steps policy hosts s labels = some s') (hc : s.cancelled = true) :
    labels.countP Label.isFinish ≤ weigh Phase.inFlight s.workers := by
  have hrun := run_induction (P := fun ls t => t.cancelled = true ∧
      weigh Phase.inFlight t.workers + ls.countP Label.isFinish ≤ weigh Phase.inFlight s.workers)
    (fun ⟨hc, hle⟩ ha => by
      obtain ⟨hc', hstep⟩ := ha.inFlight_le hc
      rw [List.countP_append]
      exact ⟨hc', by omega⟩) h ⟨hc, by simp⟩
  omega

/-- The worker that fires the token has nothing in flight. -/
theorem Move.inFlight_eq_zero {w : Nat} {p q : Phase hosts.size}
    (hm : Move policy hosts w false l p q true) : q.inFlight = 0 := by
  cases hm with
  | advance ha =>
      cases ha with
      | fire => rfl
      | refire h => cases h

theorem Action.inFlight_lt (ha : Action policy hosts s l s')
    (h : s.cancelled = true → weigh Phase.inFlight s.workers < s.workers.length)
    (hc' : s'.cancelled = true) : weigh Phase.inFlight s'.workers < s'.workers.length := by
  cases hc : s.cancelled with
  | true =>
      have hle := (ha.inFlight_le hc).2
      rw [ha.length_workers]
      exact Nat.lt_of_le_of_lt (Nat.le_of_add_right_le hle) (h hc)
  | false =>
      obtain ⟨w, p, q, hw, hset, hm⟩ := ha.exists_move
      rw [hc, hc'] at hm
      have hmem := List.mem_set (List.getElem?_eq_some_iff.mp hw).1 q
      exact weigh_lt_length Phase.inFlight_le_one (hset ▸ hmem) hm.inFlight_eq_zero

theorem inFlight_lt_of_cancelled
    (h : steps policy hosts (State.initial policy hosts) labels = some s)
    (hc : s.cancelled = true) : weigh Phase.inFlight s.workers < s.workers.length :=
  steps_induction (P := fun s => s.cancelled = true →
      weigh Phase.inFlight s.workers < s.workers.length)
    (fun hlt ha => ha.inFlight_lt hlt) h (fun hfalse => by cases hfalse) hc

/-! ## Workers that met a failure -/

def Label.failer? : Label → Option Nat
  | .finish w e => if e.answer.outcome.isFailure then some w else none
  | .move _ => none

/-- The workers that met a failure, each as often as it did. -/
def failers (labels : List Label) : List Nat :=
  labels.filterMap Label.failer?

/-- A worker that will run no operation any more. -/
def Spent {n : Nat} (s : State n) (v : Nat) : Prop :=
  ∃ p, s.workers[v]? = some p ∧ p.inFlight = 0 ∧ (s.cancelled = true ∨ p.isFailing = true)

theorem Move.spent {w : Nat} {c fired : Bool} {p q : Phase hosts.size}
    (hm : Move policy hosts w c l p q fired) (hp : p.inFlight = 0)
    (hcause : c = true ∨ p.isFailing = true) :
    q.inFlight = 0 ∧ (fired = true ∨ q.isFailing = true) := by
  cases hm with
  | take => simpa [Phase.inFlight, Phase.isFailing] using hcause
  | leave => simpa [Phase.inFlight, Phase.isFailing] using hcause
  | rest => simpa [Phase.inFlight, Phase.isFailing] using hcause
  | advance ha =>
      cases ha with
      | clear hc => simp [hc, Phase.isFailing] at hcause
      | skip hc => exact ⟨rfl, Or.inl hc⟩
      | start => cases hp
      | fail => cases hp
      | settle => cases hp
      | fire => exact ⟨rfl, Or.inl rfl⟩
      | refire => exact ⟨rfl, Or.inl rfl⟩
      | announce => simpa [Phase.inFlight, Phase.isFailing] using hcause

/-- A spent worker stays spent, whoever moves. -/
theorem Action.spent (ha : Action policy hosts s l s') {v : Nat} (h : Spent s v) : Spent s' v := by
  obtain ⟨r, hv, hr, hcause⟩ := h
  obtain ⟨w, p, q, hw, hset, hm⟩ := ha.exists_move
  by_cases hvw : w = v
  · subst hvw
    obtain rfl : r = p := Option.some.inj (hv.symm.trans hw)
    obtain ⟨hq, hcause⟩ := hm.spent hr hcause
    refine ⟨q, ?_, hq, hcause⟩
    rw [hset, List.getElem?_set_self (List.getElem?_eq_some_iff.mp hw).1]
  · refine ⟨r, ?_, hr, hcause.imp_left hm.fired⟩
    rw [hset, List.getElem?_set_ne hvw, hv]

@[simp] theorem failers_append (labels labels' : List Label) :
    failers (labels ++ labels') = failers labels ++ failers labels' := by
  simp [failers]

/-- Under fail-fast a worker that meets a failure goes on to fire the token. -/
theorem Move.failer (hp : policy.continueOnError = false) {w : Nat} {c fired : Bool}
    {p q : Phase hosts.size} (hm : Move policy hosts w c l p q fired) :
    failers [l] = [] ∨ (failers [l] = [w] ∧ ∃ i o, p = .running i ∧ q = .failing i o) := by
  cases hm with
  | take => exact Or.inl rfl
  | leave => exact Or.inl rfl
  | rest => exact Or.inl rfl
  | advance ha =>
      cases ha with
      | fail e hf => exact Or.inr ⟨by simp [failers, Label.failer?, hf], _, _, rfl, rfl⟩
      | settle e he =>
          have hf : e.answer.outcome.isFailure = false := by
            by_contra hne
            rw [he (by simpa using hne)] at hp
            cases hp
          exact Or.inl (by simp [failers, Label.failer?, hf])
      | _ => exact Or.inl rfl

/-- Every worker has met at most one failure, and those that have are spent. -/
structure Failures {n : Nat} (labels : List Label) (s : State n) : Prop where
  once : (failers labels).Nodup
  spent : ∀ v ∈ failers labels, Spent s v

namespace Failures

theorem action (h : Failures labels s) (hp : policy.continueOnError = false)
    (ha : Action policy hosts s l s') : Failures (labels ++ [l]) s' := by
  obtain ⟨w, p, q, hw, hset, hm⟩ := ha.exists_move
  have hkeep : ∀ v ∈ failers labels, Spent s' v := fun v hv => ha.spent (h.spent v hv)
  rcases hm.failer hp with hnil | ⟨hone, i, o, rfl, rfl⟩
  · constructor
    case once => simpa [hnil] using h.once
    case spent => simpa [hnil] using hkeep
  · -- The worker that fails was running, and a spent one never is.
    have hnew : w ∉ failers labels := by
      intro hmem
      obtain ⟨r, hr, hidle, -⟩ := h.spent w hmem
      obtain rfl : r = .running i := Option.some.inj (hr.symm.trans hw)
      cases hidle
    have hnow : Spent s' w := by
      refine ⟨.failing i o, ?_, rfl, Or.inr rfl⟩
      rw [hset, List.getElem?_set_self (List.getElem?_eq_some_iff.mp hw).1]
    constructor
    case once =>
      rw [failers_append, hone]
      exact List.nodup_append.mpr ⟨h.once, by simp, by
        rintro v hv u hu rfl
        exact hnew (List.mem_singleton.mp hu ▸ hv)⟩
    case spent =>
      intro v hv
      rw [failers_append, hone] at hv
      rcases List.mem_append.mp hv with hv | hv
      · exact hkeep v hv
      · exact List.mem_singleton.mp hv ▸ hnow

theorem of_steps (hp : policy.continueOnError = false)
    (h : steps policy hosts (State.initial policy hosts) labels = some s) : Failures labels s :=
  run_induction (P := fun ls s => Failures ls s) (fun hf ha => hf.action hp ha) h
    ⟨List.nodup_nil, fun v hv => by cases hv⟩

theorem length_le (h : Failures labels s) : (failers labels).length ≤ s.workers.length := by
  have hsub : failers labels ⊆ List.range s.workers.length := by
    intro v hv
    obtain ⟨p, hp, -⟩ := h.spent v hv
    exact List.mem_range.mpr (List.getElem?_eq_some_iff.mp hp).1
  simpa using (List.Nodup.subperm h.once hsub).length_le

end Failures

/-! ## Hosts that failed -/

theorem Action.exists_fallen (hl : Ledger hosts s) (ha : Action policy hosts s l s') :
    ∃ new, fallen s'.journal = fallen s.journal ++ new ∧ new.length = (failers [l]).length ∧
      ∀ x ∈ new, ∃ i, x = hostAt hosts i := by
  cases ha with
  | pull => exact ⟨[], (List.append_nil _).symm, rfl, by simp⟩
  | leave => exact ⟨[], (List.append_nil _).symm, rfl, by simp⟩
  | record => exact ⟨[], (List.append_nil _).symm, rfl, by simp⟩
  | refuse r hw hc =>
      rw [hl.record_eq_ok hw] at hc
      cases hc
  | @advance w i l p p' es fired hw ha =>
      refine ⟨fallen es, fallen_append _ _, ?_⟩
      cases ha with
      | fail e hf => simp [fallen, Event.fell?, failers, Label.failer?, hf]
      | settle e =>
          cases hf : e.answer.outcome.isFailure <;>
            simp [fallen, Event.fell?, failers, Label.failer?, hf]
      | _ => exact ⟨rfl, by simp [fallen, Event.fell?, fireNotice]⟩

/-- The journal tells of every failure, and of no host outside the set. -/
theorem fallen_of_steps (h : steps policy hosts (State.initial policy hosts) labels = some s) :
    (fallen s.journal).length = (failers labels).length ∧
    ∀ x ∈ fallen s.journal, ∃ i, x = hostAt hosts i := by
  have hrun := run_induction (P := fun ls s => Ledger hosts s ∧
      (fallen s.journal).length = (failers ls).length ∧
      ∀ x ∈ fallen s.journal, ∃ i, x = hostAt hosts i)
    (fun ⟨hl, hlen, hknown⟩ ha => by
      obtain ⟨new, hnew, hone, hset⟩ := ha.exists_fallen hl
      refine ⟨hl.action ha, ?_, ?_⟩
      · rw [hnew, failers_append, List.length_append, List.length_append, hlen, hone]
      · intro x hx
        rcases List.mem_append.mp (hnew ▸ hx) with hx | hx
        · exact hknown x hx
        · exact hset x hx) h ⟨.initial policy hosts, rfl, by simp [State.initial]⟩
  exact hrun.2

end Fanout.Dispatch
