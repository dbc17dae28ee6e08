import Fanout.Dispatch.Machine
import Mathlib.Data.List.Induction

/-!
# The actions of the pool

What one step can do, said once. A worker takes a host or leaves its loop, moves the host in its
hands on by one phase, or hands its outcome over to the collector. All that is proved of runs goes
through these cases and never through `step` itself.
-/
namespace Fanout.Dispatch

/-- The record that says who fired the token. -/
def fireRecord (h : Host) : Log.Record :=
  ⟨.debug, Log.Topic.dispatcher, s!"host {h.id} failed, no new hosts will be started"⟩

def fireNotice (h : Host) : Event :=
  .logged (fireRecord h)

/-- How worker `w` moves the host at place `i` on, given whether the token has fired: its phase
before and after, what the journal gains, and whether the token has fired then. -/
inductive Advance (policy : Policy) (hosts : HostSet) (w : Nat) (i : Fin hosts.size) :
    Bool → Label → Phase hosts.size → Phase hosts.size → List Event → Bool → Prop where
  | clear {c : Bool} (hc : c = false) :
      Advance policy hosts w i c (.move w) (.holding i) (.cleared i) [] c
  | skip {c : Bool} (hc : c = true) :
      Advance policy hosts w i c (.move w) (.holding i) (.settled i .cancelled) [] c
  | start {c : Bool} :
      Advance policy hosts w i c (.move w) (.cleared i) (.running i) [.started (hostAt hosts i)] c
  | fail {c : Bool} (e : Execution) (hf : e.answer.outcome.isFailure = true)
      (hp : policy.continueOnError = false) :
      Advance policy hosts w i c (.finish w e) (.running i) (.failing i e.answer.outcome)
        (e.log.map .logged ++ [.executed (hostAt hosts i) e.answer]) c
  | settle {c : Bool} (e : Execution)
      (h : e.answer.outcome.isFailure = true → policy.continueOnError = true) :
      Advance policy hosts w i c (.finish w e) (.running i) (.settled i e.answer.outcome)
        (e.log.map .logged ++ [.executed (hostAt hosts i) e.answer]) c
  | fire {c : Bool} (hc : c = false) (o : Outcome) :
      Advance policy hosts w i c (.move w) (.failing i o) (.settled i o)
        [fireNotice (hostAt hosts i)] true
  | refire {c : Bool} (hc : c = true) (o : Outcome) :
      Advance policy hosts w i c (.move w) (.failing i o) (.settled i o) [] true
  | announce {c : Bool} (o : Outcome) :
      Advance policy hosts w i c (.move w) (.settled i o) (.announced i o)
        [.completed (hostAt hosts i) o] c

/-- One action of one worker, with the state before and the state after. -/
inductive Action (policy : Policy) (hosts : HostSet) (s : State hosts.size) :
    Label → State hosts.size → Prop where
  | pull {w : Nat} (hw : s.workers[w]? = some .idle) (hn : s.next < hosts.size) :
      Action policy hosts s (.move w) ({ s with next := s.next + 1 }.put w (.holding ⟨s.next, hn⟩))
  | leave {w : Nat} (hw : s.workers[w]? = some .idle) (hn : hosts.size ≤ s.next) :
      Action policy hosts s (.move w) ({ s with next := s.next + 1 }.put w .done)
  | advance {w : Nat} {i : Fin hosts.size} {l : Label} {p p' : Phase hosts.size}
      {es : List Event} {fired : Bool} (hw : s.workers[w]? = some p)
      (ha : Advance policy hosts w i s.cancelled l p p' es fired) :
      Action policy hosts s l (({ s with cancelled := fired }.put w p').note es)
  | record {w : Nat} {i : Fin hosts.size} {o : Outcome} {c : Collector}
      (hw : s.workers[w]? = some (.announced i o))
      (hc : s.collector.record (hostAt hosts i).id o = .ok c) :
      Action policy hosts s (.move w) ({ s with collector := c }.put w .idle)
  | refuse {w : Nat} {i : Fin hosts.size} {o : Outcome} {f : Fault} (r : Log.Record)
      (hw : s.workers[w]? = some (.announced i o))
      (hc : s.collector.record (hostAt hosts i).id o = .error f) :
      Action policy hosts s (.move w)
        (({ s with fault := s.fault.or (some f) }.put w .idle).note [.logged r])

variable {policy : Policy} {hosts : HostSet} {s s' : State hosts.size} {l : Label}

theorem State.note_nil {n : Nat} (s : State n) : s.note [] = s := by
  simp [note]

theorem step_action (h : step policy hosts s l = some s') : Action policy hosts s l s' := by
  cases l with
  | move w =>
      simp only [step] at h
      split at h <;> cases h
      · rename_i hw
        simp only [State.pull]
        split
        · exact .pull hw ‹_›
        · exact .leave hw (Nat.le_of_not_lt ‹_›)
      · rename_i i hw
        simp only [State.check]
        split
        · simpa only [State.note_nil] using Action.advance hw (.skip ‹_›)
        · simpa only [State.note_nil] using Action.advance hw (.clear (Bool.eq_false_iff.mpr ‹_›))
      · exact Action.advance ‹_› .start
      · rename_i i o hw
        simp only [State.fire]
        split
        · simpa only [State.note_nil] using Action.advance hw (.refire ‹_› o)
        · exact Action.advance hw (.fire (Bool.eq_false_iff.mpr ‹_›) o)
      · exact Action.advance ‹_› (.announce _)
      · rename_i i o hw
        simp only [State.record]
        split
        · exact .record hw ‹_›
        · exact .refuse _ hw ‹_›
  | finish w e =>
      simp only [step] at h
      split at h <;> cases h
      rename_i i hw
      simp only [State.finish]
      split
      · rename_i hf
        simp only [Bool.and_eq_true, Bool.not_eq_true'] at hf
        exact Action.advance hw (.fail e hf.1 hf.2)
      · rename_i hf
        refine Action.advance hw (.settle e fun ho => ?_)
        simpa [ho] using hf

/-- What an action does to the phase of the one worker that moves, and to the token. -/
inductive Move (policy : Policy) (hosts : HostSet) (w : Nat) (c : Bool) :
    Label → Phase hosts.size → Phase hosts.size → Bool → Prop where
  | take (i : Fin hosts.size) : Move policy hosts w c (.move w) .idle (.holding i) c
  | leave : Move policy hosts w c (.move w) .idle .done c
  | advance {i : Fin hosts.size} {l : Label} {p p' : Phase hosts.size} {es : List Event}
      {fired : Bool} (ha : Advance policy hosts w i c l p p' es fired) :
      Move policy hosts w c l p p' fired
  | rest (i : Fin hosts.size) (o : Outcome) :
      Move policy hosts w c (.move w) (.announced i o) .idle c

theorem Action.exists_move (ha : Action policy hosts s l s') : ∃ w p q, s.workers[w]? = some p ∧
    s'.workers = s.workers.set w q ∧ Move policy hosts w s.cancelled l p q s'.cancelled := by
  cases ha with
  | pull hw hn => exact ⟨_, _, _, hw, rfl, .take _⟩
  | leave hw hn => exact ⟨_, _, _, hw, rfl, .leave⟩
  | advance hw ha => exact ⟨_, _, _, hw, rfl, .advance ha⟩
  | record hw hc => exact ⟨_, _, _, hw, rfl, .rest _ _⟩
  | refuse r hw hc => exact ⟨_, _, _, hw, rfl, .rest _ _⟩

/-- A token that has fired stays so. -/
theorem Move.fired {w : Nat} {c fired : Bool} {p q : Phase hosts.size}
    (hm : Move policy hosts w c l p q fired) (hc : c = true) : fired = true := by
  cases hm with
  | take => exact hc
  | leave => exact hc
  | rest => exact hc
  | advance ha => cases ha <;> first | exact hc | rfl

/-- The journal only grows. -/
theorem Action.exists_events (ha : Action policy hosts s l s') :
    ∃ es, s'.journal = s.journal ++ es := by
  cases ha with
  | pull => exact ⟨[], (List.append_nil _).symm⟩
  | leave => exact ⟨[], (List.append_nil _).symm⟩
  | advance => exact ⟨_, rfl⟩
  | record => exact ⟨[], (List.append_nil _).symm⟩
  | refuse => exact ⟨_, rfl⟩

/-! ## Runs -/

theorem steps_append {labels labels' : List Label} : steps policy hosts s (labels ++ labels') =
    (steps policy hosts s labels).bind (steps policy hosts · labels') := by
  simp [steps, List.foldlM_append]

theorem steps_singleton : steps policy hosts s [l] = step policy hosts s l := by
  simp [steps]

/-- Something holds of every step of a run, given the state in which it is taken. -/
def Along (policy : Policy) (hosts : HostSet) (Q : State hosts.size → Label → Prop)
    (s : State hosts.size) (labels : List Label) : Prop :=
  ∀ before l after t, labels = before ++ l :: after → steps policy hosts s before = some t → Q t l

theorem Along.cons {Q : State hosts.size → Label → Prop} {labels : List Label} (hq : Q s l)
    (hs : step policy hosts s l = some s') (h : Along policy hosts Q s' labels) :
    Along policy hosts Q s (l :: labels) := by
  intro before l' after t hsplit ht
  cases before with
  | nil =>
      obtain ⟨rfl, rfl⟩ := List.cons.inj hsplit
      cases ht
      exact hq
  | cons l'' before =>
      obtain ⟨rfl, rfl⟩ := List.cons.inj hsplit
      rw [← List.singleton_append, steps_append, steps_singleton, hs] at ht
      exact h before l' after t rfl ht

theorem Along.nil {Q : State hosts.size → Label → Prop} : Along policy hosts Q s [] :=
  fun before l after t hsplit => by simp at hsplit

/-- What every step keeps of a state and of the steps that led to it, a whole run keeps, the steps
being those of which something holds. -/
theorem run_induction_along {Q : State hosts.size → Label → Prop}
    {P : List Label → State hosts.size → Prop}
    (hstep : ∀ {ls t l t'}, steps policy hosts s ls = some t → P ls t → Q t l →
      Action policy hosts t l t' → P (ls ++ [l]) t')
    {labels : List Label} (h : steps policy hosts s labels = some s')
    (ha : Along policy hosts Q s labels) (h₀ : P [] s) : P labels s' := by
  induction labels using List.reverseRecOn generalizing s' with
  | nil =>
      cases h
      exact h₀
  | append_singleton ls l ih =>
      rw [steps_append, Option.bind_eq_some_iff] at h
      obtain ⟨t, ht, hl⟩ := h
      rw [steps_singleton] at hl
      have hfront : Along policy hosts Q s ls := fun before l' after t' hsplit =>
        ha before l' (after ++ [l]) t' (by simp [hsplit])
      exact hstep ht (ih ht hfront) (ha ls l [] t rfl ht) (step_action hl)

theorem run_induction {P : List Label → State hosts.size → Prop}
    (hstep : ∀ {ls s l s'}, P ls s → Action policy hosts s l s' → P (ls ++ [l]) s')
    {labels : List Label} (h : steps policy hosts s labels = some s') (h₀ : P [] s) :
    P labels s' :=
  run_induction_along (Q := fun _ _ => True) (fun _ hs _ ha => hstep hs ha) h
    (fun _ _ _ _ _ _ => trivial) h₀

theorem steps_induction {P : State hosts.size → Prop}
    (hstep : ∀ {s l s'}, P s → Action policy hosts s l s' → P s') {labels : List Label}
    (h : steps policy hosts s labels = some s') (h₀ : P s) : P s' :=
  run_induction (P := fun _ s => P s) hstep h h₀

/-! ## The size of the pool -/

theorem Action.length_workers (ha : Action policy hosts s l s') :
    s'.workers.length = s.workers.length := by
  cases ha <;> exact List.length_set

theorem length_workers_of_steps {labels : List Label}
    (h : steps policy hosts (State.initial policy hosts) labels = some s) :
    s.workers.length = State.poolSize policy hosts.size := by
  refine steps_induction (P := fun s => s.workers.length = State.poolSize policy hosts.size)
    (fun hs ha => ha.length_workers.trans hs) h ?_
  simp [State.initial]

/-- A policy that allows an execution gives a pool of at least one worker, if there is a host. -/
theorem poolSize_pos (hj : policy.maxConcurrency ≠ 0) {n : Nat} (hn : 0 < n) :
    0 < State.poolSize policy n := by
  have hpos : policy.maxConcurrency.toNat ≠ 0 := fun h => hj (UInt64.toNat_inj.mp h)
  simp only [State.poolSize]
  omega

/-! ## Sums over the workers -/

/-- The sum of what a function makes of the workers' phases. -/
def weigh {n : Nat} (f : Phase n → Nat) : List (Phase n) → Nat
  | [] => 0
  | p :: ps => f p + weigh f ps

theorem weigh_set {n : Nat} (f : Phase n → Nat) {workers : List (Phase n)} {w : Nat}
    {p q : Phase n} (hw : workers[w]? = some p) :
    weigh f (workers.set w q) + f p = weigh f workers + f q := by
  induction workers generalizing w with
  | nil => simp at hw
  | cons r rs ih =>
      cases w with
      | zero =>
          obtain rfl : r = p := by simpa using hw
          simp only [weigh, List.set_cons_zero]
          omega
      | succ w =>
          have := ih (by simpa using hw)
          simp only [weigh, List.set_cons_succ]
          omega

theorem weigh_append {n : Nat} (f : Phase n → Nat) (ps qs : List (Phase n)) :
    weigh f (ps ++ qs) = weigh f ps + weigh f qs := by
  induction ps with
  | nil => simp [weigh]
  | cons p ps ih => simp only [List.cons_append, weigh, ih, Nat.add_assoc]

theorem weigh_replicate {n : Nat} (f : Phase n → Nat) (p : Phase n) (k : Nat) :
    weigh f (List.replicate k p) = k * f p := by
  induction k with
  | zero => simp [weigh]
  | succ k ih => rw [List.replicate_succ, weigh, ih, Nat.succ_mul, Nat.add_comm]

theorem le_weigh {n : Nat} (f : Phase n → Nat) {ps : List (Phase n)} {p : Phase n} (hp : p ∈ ps) :
    f p ≤ weigh f ps := by
  obtain ⟨before, after, rfl⟩ := List.append_of_mem hp
  simp only [weigh_append, weigh]
  omega

theorem weigh_le_length {n : Nat} {f : Phase n → Nat} (hf : ∀ p, f p ≤ 1)
    (workers : List (Phase n)) : weigh f workers ≤ workers.length := by
  induction workers with
  | nil => simp [weigh]
  | cons p ps ih =>
      have := hf p
      simp only [weigh, List.length_cons]
      omega

/-- A worker that does not count leaves room below the number of workers. -/
theorem weigh_lt_length {n : Nat} {f : Phase n → Nat} (hf : ∀ p, f p ≤ 1)
    {workers : List (Phase n)} {p : Phase n} (hp : p ∈ workers) (h₀ : f p = 0) :
    weigh f workers < workers.length := by
  obtain ⟨before, after, rfl⟩ := List.append_of_mem hp
  have hb := weigh_le_length hf before
  have ha := weigh_le_length hf after
  simp only [weigh_append, weigh, List.length_append, List.length_cons, h₀]
  omega

end Fanout.Dispatch
