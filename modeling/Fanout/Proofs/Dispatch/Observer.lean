import Fanout.Proofs.Dispatch.Flight
import Fanout.Proofs.Dispatch.Reference
import Mathlib.Data.List.Induction

/-!
# What an observer is told

An observer is told when the dispatch begins and ends, and when a host is started and completed. What
it is told is the journal without the ends of operations and the log, so every host's part of it is
the host's trail, and the hosts it knows to be at work are never more than the workers.
-/
namespace Fanout.Dispatch

/-! ## Calls of the observer -/

/-- Whether an event is one the observer is told. -/
def Event.isCall : Event → Bool
  | .begun _ | .started _ | .completed _ _ | .ended => true
  | .executed _ _ | .logged _ => false

def calls (journal : List Event) : List Event :=
  journal.filter Event.isCall

/-- The hosts that were started and have no outcome yet. -/
def ongoing (journal : List Event) : List Host :=
  unclosed Event.completed? journal

@[simp] theorem calls_append (es fs : List Event) : calls (es ++ fs) = calls es ++ calls fs :=
  List.filter_append ..

@[simp] theorem calls_logged (log : List Log.Record) : calls (log.map .logged) = [] := by
  simp [calls, Event.isCall]

theorem trail_calls (h : Host) (journal : List Event) :
    trail h (calls journal) = calls (trail h journal) := by
  simp only [trail, calls, List.filter_filter, Bool.and_comm]

theorem ongoing_calls (journal : List Event) : ongoing (calls journal) = ongoing journal := by
  have hkeep : ∀ {f : Event → Option Host}, (∀ e, e.isCall = false → f e = none) →
      (calls journal).filterMap f = journal.filterMap f := by
    intro f hf
    rw [calls, List.filterMap_filter]
    refine List.filterMap_congr fun e _ => ?_
    cases hc : e.isCall with
    | true => rfl
    | false => exact (hf e hc).symm
  have hstarted : ∀ e : Event, e.isCall = false → e.started? = none := by
    intro e he
    cases e <;> first | rfl | cases he
  have hcompleted : ∀ e : Event, e.isCall = false → e.completed? = none := by
    intro e he
    cases e <;> first | rfl | cases he
  simp only [ongoing, unclosed, startedHosts, hkeep hstarted, hkeep hcompleted]

/-- The calls about a host: its start, unless it was cancelled, and its completion. -/
theorem Closed.calls_eq {h : Host} {o : Outcome} {t : List Event} (hc : Closed h o t) :
    calls t = if o = .cancelled then [.completed h o] else [.started h, .completed h o] := by
  obtain ⟨r, hr, rfl⟩ := hc
  cases hr with
  | ran a => rw [if_neg (outcome_ne_cancelled a)]; rfl
  | skipped => rfl

/-! ## One call at a time -/

variable {policy : Policy} {hosts : HostSet} {s s' : State hosts.size} {l : Label}
  {labels : List Label}

theorem Advance.length_calls_le {w : Nat} {i : Fin hosts.size} {c fired : Bool}
    {p p' : Phase hosts.size} {es : List Event}
    (ha : Advance policy hosts w i c l p p' es fired) : (calls es).length ≤ 1 := by
  cases ha with
  | fail e =>
      rw [calls_append, calls_logged]
      exact Nat.zero_le 1
  | settle e =>
      rw [calls_append, calls_logged]
      exact Nat.zero_le 1
  | _ => exact Nat.le_trans (List.length_filter_le _ _) (by simp)

theorem Action.exists_calls (ha : Action policy hosts s l s') :
    ∃ new, calls s'.journal = calls s.journal ++ new ∧ new.length ≤ 1 := by
  cases ha with
  | pull => exact ⟨[], (List.append_nil _).symm, Nat.zero_le 1⟩
  | leave => exact ⟨[], (List.append_nil _).symm, Nat.zero_le 1⟩
  | record => exact ⟨[], (List.append_nil _).symm, Nat.zero_le 1⟩
  | advance hw ha => exact ⟨_, calls_append _ _, ha.length_calls_le⟩
  | refuse r => exact ⟨_, calls_append _ _, by simp [calls, Event.isCall]⟩

/-- A list that grows by no more than one element has no prefix between the old one and itself. -/
theorem prefix_or_eq_of_prefix_append {α : Type} {xs ys new : List α} (h : ys <+: xs ++ new)
    (hnew : new.length ≤ 1) : ys <+: xs ∨ ys = xs ++ new := by
  cases new with
  | nil => exact Or.inl (by simpa using h)
  | cons y new =>
      obtain rfl : new = [] := List.eq_nil_of_length_eq_zero (by simpa using hnew)
      exact (List.prefix_concat_iff.mp h).symm

/-- At every moment of a run no more hosts are at work than there are workers. -/
theorem ongoing_le_of_prefix
    (h : steps policy hosts (State.initial policy hosts) labels = some s) :
    ∀ before, before <+: calls s.journal →
      (ongoing before).length ≤ State.poolSize policy hosts.size := by
  induction labels using List.reverseRecOn generalizing s with
  | nil =>
      cases h
      intro before hb
      obtain rfl := List.prefix_nil.mp hb
      exact Nat.zero_le _
  | append_singleton ls l ih =>
      have hsteps := h
      rw [steps_append, Option.bind_eq_some_iff] at hsteps
      obtain ⟨t, ht, hl⟩ := hsteps
      have hstep : step policy hosts t l = some s := by simpa [steps] using hl
      obtain ⟨new, hnew, hlen⟩ := (step_action hstep).exists_calls
      intro before hb
      rcases prefix_or_eq_of_prefix_append (hnew ▸ hb) hlen with hb | rfl
      · exact ih ht before hb
      · rw [← hnew, ongoing_calls, ← length_workers_of_steps h]
        exact (Ledger.of_steps h).length_unclosed_le (within_of_steps h)
          (by simp [Event.completed?])

/-! ## The calls of a whole dispatch -/

/-- What an observer is told of a dispatch with the outcomes `m`, where no more than `bound` hosts may
be at work at once. -/
structure Observed (hosts : HostSet) (bound : Nat) (m : Outcomes) (seen : List Event) : Prop where
  /-- The beginning comes first and the end last, and all between them is about hosts of the set. -/
  framed : ∃ inner, seen = .begun hosts.size :: (inner ++ [.ended]) ∧
    ∀ e ∈ inner, ∃ i, e = .started (hostAt hosts i) ∨ ∃ o, e = .completed (hostAt hosts i) o
  /-- A host is completed once, with its outcome in the result. Before that it is started once, or
  never if it is cancelled. -/
  told : ∀ i, ∃ o, m.get? (hostAt hosts i).id = some o ∧ trail (hostAt hosts i) seen =
    if o = .cancelled then [.completed (hostAt hosts i) o]
    else [.started (hostAt hosts i), .completed (hostAt hosts i) o]
  bounded : ∀ before, before <+: seen → (ongoing before).length ≤ bound

theorem Event.Within.of_isCall {e : Event} (he : e.Within hosts) (hc : e.isCall = true) :
    ∃ i, e = .started (hostAt hosts i) ∨ ∃ o, e = .completed (hostAt hosts i) o := by
  cases he with
  | started i => exact ⟨i, Or.inl rfl⟩
  | completed i o => exact ⟨i, Or.inr ⟨o, rfl⟩⟩
  | executed => cases hc
  | logged => cases hc

theorem ongoing_begun (total : Nat) (es : List Event) : ongoing (.begun total :: es) = ongoing es :=
  rfl

theorem ongoing_ended (es : List Event) : ongoing (es ++ [.ended]) = ongoing es := by
  simp [ongoing, unclosed, startedHosts, List.filterMap_cons, Event.started?, Event.completed?]

theorem observed_of_steps {m : Outcomes}
    (h : steps policy hosts (State.initial policy hosts) labels = some s)
    (houts : ∀ i, ∃ o, m.get? (hostAt hosts i).id = some o ∧
      Closed (hostAt hosts i) o (trail (hostAt hosts i) s.journal)) :
    Observed hosts (min policy.maxConcurrency.toNat hosts.size) m
      (.begun hosts.size :: (calls s.journal ++ [.ended])) where
  framed := by
    refine ⟨_, rfl, fun e he => ?_⟩
    obtain ⟨he, hc⟩ := List.mem_filter.mp he
    exact (within_of_steps h e he).of_isCall hc
  told := by
    intro i
    obtain ⟨o, ho, hclosed⟩ := houts i
    refine ⟨o, ho, ?_⟩
    rw [trail_cons, if_neg (by simp [Event.host?]), trail_append, trail_calls, hclosed.calls_eq]
    exact List.append_nil _
  bounded := by
    intro before hb
    have hle := ongoing_le_of_prefix h
    rcases List.prefix_cons_iff.mp hb with rfl | ⟨rest, rfl, hrest⟩
    · exact Nat.zero_le _
    · rw [ongoing_begun]
      rcases List.prefix_concat_iff.mp hrest with rfl | hrest
      · rw [ongoing_ended]
        exact hle _ List.prefix_rfl
      · exact hle rest hrest

variable {σ : Type} {op : Operation σ}

theorem calls_reportEvents (m : Outcomes) : calls (reportEvents m) = [] := by
  refine List.filter_eq_nil_iff.mpr fun e he => ?_
  obtain ⟨line, -, rfl⟩ := List.mem_map.mp he
  simp [Event.isCall]

theorem calls_run_eq_nil (hnone : policy.maxConcurrency = 0 ∨ hosts.isEmpty = true)
    (pick : Schedule) (op : Operation σ) (world : σ) (reports : Bool) :
    calls (run policy hosts pick op world reports).journal = [] := by
  by_cases hj : policy.maxConcurrency = 0
  · simp only [run, hj, ↓reduceIte]
    rfl
  · rw [run_of_isEmpty hj (hnone.resolve_left hj)]
    rfl

theorem exists_observed_run (hj : policy.maxConcurrency ≠ 0) (hne : hosts.isEmpty = false)
    (pick : Schedule) (op : Operation σ) (world : σ) (reports : Bool) :
    ∃ m, (run policy hosts pick op world reports).result = .ok m ∧
      Observed hosts (min policy.maxConcurrency.toNat hosts.size) m
        (calls (run policy hosts pick op world reports).journal) := by
  obtain ⟨labels, s, m, world', hplays, hs, hm, -, hello, hrun⟩ :=
    exists_run hj hne pick op world reports
  obtain ⟨m', hm', -, houts⟩ := exists_outcomes_of_steps hj hplays.steps_eq hs
  obtain rfl : m = m' := Except.ok.inj (hm.symm.trans hm')
  have hcalls : calls (run policy hosts pick op world reports).journal =
      .begun hosts.size :: (calls s.journal ++ [.ended]) := by
    have hend : calls (.ended :: (if reports then reportEvents m else [])) = [.ended] := by
      cases reports
      · rfl
      · exact congrArg (Event.ended :: ·) (calls_reportEvents m)
    rw [hrun, calls_append, calls_append, hend]
    rfl
  rw [hcalls, hrun]
  exact ⟨m, rfl, observed_of_steps hplays.steps_eq houts⟩

/-- Under a policy that allows an execution, on some hosts, the calls of every dispatch are well formed,
and so are those around every finished interleaving. Otherwise there is no call. -/
theorem observer_protocol (policy : Policy) (hosts : HostSet) :
    ((policy.maxConcurrency = 0 ∨ hosts.isEmpty = true) →
      ∀ {σ : Type} (pick : Schedule) (op : Operation σ) (world : σ) (reports : Bool),
        calls (run policy hosts pick op world reports).journal = []) ∧
    (policy.maxConcurrency ≠ 0 → hosts.isEmpty = false →
      (∀ {σ : Type} (pick : Schedule) (op : Operation σ) (world : σ) (reports : Bool),
        ∃ m, (run policy hosts pick op world reports).result = .ok m ∧
          Observed hosts (min policy.maxConcurrency.toNat hosts.size) m
            (calls (run policy hosts pick op world reports).journal)) ∧
      ∀ (labels : List Label) (s : State hosts.size),
        steps policy hosts (State.initial policy hosts) labels = some s → s.Finished →
        ∃ m, s.outcomes = .ok m ∧ Observed hosts (min policy.maxConcurrency.toNat hosts.size) m
          (.begun hosts.size :: (calls s.journal ++ [.ended]))) := by
  refine ⟨fun hnone => calls_run_eq_nil hnone, fun hj hne => ⟨exists_observed_run hj hne, ?_⟩⟩
  intro labels s h hs
  obtain ⟨m, hm, -, houts⟩ := exists_outcomes_of_steps hj h hs
  exact ⟨m, hm, observed_of_steps h houts⟩

theorem observer_protocol_stopping : stopping.maxConcurrency ≠ 0 ∧ twoHosts.isEmpty = false ∧
    ∃ m, (run stopping twoHosts Schedule.inOrder diskCheck 0 true).result = .ok m ∧
      Observed twoHosts 2 m
        (calls (run stopping twoHosts Schedule.inOrder diskCheck 0 true).journal) :=
  ⟨by decide, rfl, ((observer_protocol stopping twoHosts).2 (by decide) rfl).1 _ _ _ _⟩

end Fanout.Dispatch
