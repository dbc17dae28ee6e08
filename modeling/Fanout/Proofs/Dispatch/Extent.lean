import Fanout.Proofs.Dispatch.Answers
import Fanout.Proofs.Dispatch.Eager
import Fanout.Proofs.Dispatch.Reference
import Mathlib.Data.List.TakeWhile

/-!
# How far a fail-fast dispatch gets

In an eager run the hosts attempted are the first ones of the queue: one for each operation that
succeeded before the first failure, and one for each worker. At the first failure the pool is at rest,
so these hosts are just the ones taken; the token has fired before another worker is free.
-/
namespace Fanout.Dispatch

variable {policy : Policy} {hosts : HostSet} {s s' : State hosts.size} {l : Label}
  {labels : List Label}

/-! ## Successes before the first failure -/

/-- How many operations succeeded before one failed. -/
def succeeded (journal : List Event) : Nat :=
  ((answers journal).takeWhile fun a => !a.outcome.isFailure).length

theorem succeeded_append_of_fallen {journal : List Event} (h : fallen journal ≠ [])
    (es : List Event) : succeeded (journal ++ es) = succeeded journal := by
  have hshort : ((answers journal).takeWhile fun a => !a.outcome.isFailure).length ≠
      (answers journal).length := by
    intro hlen
    have hall := List.takeWhile_eq_self_iff.mp
      ((List.takeWhile_prefix fun a : Answer => !a.outcome.isFailure).eq_of_length hlen)
    exact h (fallen_eq_nil_iff.mpr fun a ha => by simpa using hall a ha)
  rw [succeeded, answers_append, List.takeWhile_append, if_neg hshort]
  rfl

/-- The operations that ended before the first failure are those that succeeded. -/
theorem succeeded_append_failure {journal es : List Event} (h : fallen journal = []) {a : Answer}
    (ha : a.outcome.isFailure = true) (hes : answers es = [a]) :
    succeeded (journal ++ es) = (answers journal).length := by
  have hall : ∀ a ∈ answers journal, (!a.outcome.isFailure) = true := fun a ha => by
    simpa using fallen_eq_nil_iff.mp h a ha
  rw [succeeded, answers_append, hes, List.takeWhile_append_of_pos hall]
  simp [ha]

/-! ## Hosts that are attempted -/

/-- The operation on a host was started, or will be since its worker is past the token. -/
def Attempted (s : State hosts.size) (i : Fin hosts.size) : Prop :=
  .started (hostAt hosts i) ∈ s.journal ∨ .cleared i ∈ s.workers

theorem cleared_mem_set_iff {n w : Nat} {workers : List (Phase n)} {p q : Phase n} {i : Fin n}
    (hw : workers[w]? = some p) (hp : p ≠ .cleared i) (hq : q ≠ .cleared i) :
    .cleared i ∈ workers.set w q ↔ .cleared i ∈ workers := by
  have h := exists_mem_set_iff (q := q) (F := fun r => r = .cleared i) hw hp
  simpa [hq] using h

/-- Only a worker that has a host in its hands and may go on attempts one more. -/
theorem Action.attempted_iff (ha : Action policy hosts s l s')
    (hheld : ∀ i, .holding i ∈ s.workers → s.cancelled = true) (i : Fin hosts.size) :
    Attempted s' i ↔ Attempted s i := by
  cases ha with
  | pull hw => exact or_congr_right (cleared_mem_set_iff hw (by simp) (by simp))
  | leave hw => exact or_congr_right (cleared_mem_set_iff hw (by simp) (by simp))
  | record hw => exact or_congr_right (cleared_mem_set_iff hw (by simp) (by simp))
  | refuse r hw =>
      exact or_congr (by simp [State.note, State.put]) (cleared_mem_set_iff hw (by simp) (by simp))
  | @advance w j l p p' es fired hw ha =>
      -- A step that neither starts the host nor comes to be about to.
      have hkeep : .started (hostAt hosts i) ∉ es → p ≠ .cleared i → p' ≠ .cleared i →
          (Attempted (({ s with cancelled := fired }.put w p').note es) i ↔ Attempted s i) :=
        fun hes hp hp' => or_congr (by simp [State.note, State.put, hes])
          (cleared_mem_set_iff hw hp hp')
      cases ha with
      | clear hc => rw [hheld j (List.mem_of_getElem? hw)] at hc; cases hc
      | start =>
          by_cases hij : j = i
          · subst hij
            exact iff_of_true (.inl (by simp [State.note])) (.inr (List.mem_of_getElem? hw))
          · exact hkeep (by simp [hostAt_ne (Ne.symm hij)]) (by simp [hij]) (by simp)
      | fire => exact hkeep (by simp [fireNotice]) (by simp) (by simp)
      | _ => exact hkeep (by simp) (by simp) (by simp)

/-- Before any failure the hosts attempted at rest are those taken. -/
theorem State.AtRest.attempted_iff (hrest : s.AtRest)
    (h : steps policy hosts (State.initial policy hosts) labels = some s)
    (hc : s.cancelled = false) (i : Fin hosts.size) : Attempted s i ↔ i.val < s.next := by
  have hl := Ledger.of_steps h
  constructor
  · rintro (hstart | hcleared)
    · refine Nat.lt_of_not_le fun hle => ?_
      have hmem : .started (hostAt hosts i) ∈ trail (hostAt hosts i) s.journal :=
        mem_trail.mpr ⟨hstart, rfl⟩
      rw [hl.waiting i hle] at hmem
      cases hmem
    · exact hl.lt_next (List.mem_filterMap.mpr ⟨_, hcleared, rfl⟩)
  · intro hlt
    rcases hl.inHand_or_closed hlt with ⟨p, hp, hplace, htells⟩ | ⟨o, r, hr, htrail⟩
    · generalize ht : trail (hostAt hosts i) s.journal = t at htells
      cases htells with
      | cleared => exact .inr hp
      | running => exact .inl (mem_trail.mp (ht ▸ List.mem_singleton_self _)).1
      | _ => simpa [Phase.isDone, Phase.inFlight] using hrest _ hp
    · cases hr with
      | ran a =>
          have hmem : .started (hostAt hosts i) ∈ trail (hostAt hosts i) s.journal := by simp [htrail]
          exact .inl (mem_trail.mp hmem).1
      | skipped =>
          have hmem : .completed (hostAt hosts i) .cancelled ∈
              trail (hostAt hosts i) s.journal := by simp [htrail]
          rw [(Token.of_steps h).closed _ (mem_trail.mp hmem).1] at hc
          cases hc

/-! ## After the first failure -/

/-- If the token has not fired, no worker is free before it does. -/
def State.Quiet {n : Nat} (s : State n) : Prop :=
  s.cancelled = false → ∀ p ∈ s.workers, p.isDone = true ∨ p.inFlight = 1 ∨ p.isFailing = true

theorem Action.quiet (ha : Action policy hosts s l s') (hq : s.Quiet)
    (hfinish : l.isFinish = true → s.cancelled = true) : s'.Quiet := by
  obtain ⟨w, p, q, hw, hset, hm⟩ := ha.exists_move
  intro hc' r hr
  have hc : s.cancelled = false := by
    by_contra hc
    rw [hm.fired (by simpa using hc)] at hc'
    cases hc'
  rcases List.mem_or_eq_of_mem_set (hset ▸ hr) with hr | rfl
  · exact hq hc r hr
  · have hp := hq hc p (List.mem_of_getElem? hw)
    rw [hc] at hm hfinish
    rw [hc'] at hm
    cases hm with
    | advance ha =>
        cases ha with
        | start => exact .inr (.inl rfl)
        | fail => cases hfinish rfl
        | settle => cases hfinish rfl
        | _ => simp [Phase.isDone, Phase.inFlight, Phase.isFailing] at hp
    | _ => simp [Phase.isDone, Phase.inFlight, Phase.isFailing] at hp

/-- A pool in which an operation has failed: what was to be attempted is settled. -/
structure Halted (policy : Policy) (hosts : HostSet) (s : State hosts.size) : Prop where
  quiet : s.Quiet
  attempted : ∀ i, Attempted s i ↔
    i.val < min hosts.size (succeeded s.journal + State.poolSize policy hosts.size)

namespace Halted

theorem action (h : Halted policy hosts s) (ht : Token policy hosts s)
    (hp : policy.continueOnError = false) (hf : fallen s.journal ≠ []) (hpatient : Patient s l)
    (ha : Action policy hosts s l s') : Halted policy hosts s' := by
  have hfinish : l.isFinish = true → s.cancelled = true := by
    intro hl
    refine (ht.fired_iff.mpr ⟨hp, hf⟩).resolve_right ?_
    rintro ⟨p, hmem, hfailing⟩
    have hrest := hpatient hl p hmem
    cases p <;> simp [Phase.isFailing, Phase.isDone, Phase.inFlight] at hfailing hrest
  have hheld : ∀ i, .holding i ∈ s.workers → s.cancelled = true := by
    intro i hi
    by_contra hc
    simpa [Phase.isDone, Phase.inFlight, Phase.isFailing] using h.quiet (by simpa using hc) _ hi
  obtain ⟨es, hes⟩ := ha.exists_events
  exact ⟨ha.quiet h.quiet hfinish, fun i => by
    rw [ha.attempted_iff hheld, h.attempted, hes, succeeded_append_of_fallen hf]⟩

/-- The first operation that fails does so where the pool is at rest. -/
theorem of_first (h : steps policy hosts (State.initial policy hosts) labels = some s)
    (hp : policy.continueOnError = false) (hnone : fallen s.journal = []) (hpatient : Patient s l)
    (ha : Action policy hosts s l s') (hf : fallen s'.journal ≠ []) : Halted policy hosts s' := by
  have hc : s.cancelled = false := by
    by_contra hc
    exact ((Token.of_steps h).fired_iff.mp (.inl (by simpa using hc))).2 hnone
  cases ha with
  | pull => exact absurd hnone hf
  | leave => exact absurd hnone hf
  | record => exact absurd hnone hf
  | refuse r hw hrefused =>
      rw [(Ledger.of_steps h).record_eq_ok hw] at hrefused
      cases hrefused
  | @advance w i l p p' es fired hw ha =>
      have hes : fallen es ≠ [] := by simpa [State.note, State.put, hnone] using hf
      cases ha with
      | settle e he =>
          have hfailed : e.answer.outcome.isFailure = true := by
            simpa [fallen, Event.fell?] using hes
          rw [he hfailed] at hp
          cases hp
      | fail e hfailed =>
          have hrest : s.AtRest := hpatient rfl
          have ha : Action policy hosts s (.finish w e) _ := .advance hw (.fail e hfailed hp)
          have hheld : ∀ j, .holding j ∈ s.workers → s.cancelled = true := by
            intro j hj
            simpa [Phase.isDone, Phase.inFlight] using hrest _ hj
          constructor
          case quiet =>
            intro _ r hr
            rcases List.mem_or_eq_of_mem_set hr with hr | rfl
            · exact (hrest r hr).imp_right .inl
            · exact .inr (.inr rfl)
          case attempted =>
            intro j
            have hcount := hrest.min_next h hc
            rw [ha.attempted_iff hheld, hrest.attempted_iff h hc, State.note, State.put,
              succeeded_append_failure hnone hfailed (by simp [answers, Event.answer?]), ← hcount]
            omega
      | _ => simp [fallen, Event.fell?, fireNotice] at hes

theorem of_eager (hp : policy.continueOnError = false)
    (h : steps policy hosts (State.initial policy hosts) labels = some s)
    (he : Eager policy hosts labels) (hf : fallen s.journal ≠ []) : Halted policy hosts s := by
  refine run_induction_along (P := fun _ s => fallen s.journal ≠ [] → Halted policy hosts s)
    (fun {ls t l t'} ht ih hpatient ha hf' => ?_) h he (absurd rfl) hf
  by_cases hnone : fallen t.journal = []
  · exact .of_first ht hp hnone hpatient ha hf'
  · exact (ih hnone).action (Token.of_steps ht) hp hnone hpatient ha

end Halted

/-! ## The extent of a run -/

/-- How many hosts are attempted: all of them, unless an operation fails. -/
def extent (policy : Policy) (n : Nat) (journal : List Event) : Nat :=
  if ∀ a ∈ answers journal, a.outcome.isFailure = false then n
  else min n (succeeded journal + State.poolSize policy n)

/-- The hosts before a place in the queue were run, each once, and the others were cancelled. -/
structure RunUpTo (hosts : HostSet) (x : Nat) (journal : List Event) (m : Outcomes) : Prop where
  attempted : ∀ i : Fin hosts.size, i.val < x → ∃ a,
    executions (hostAt hosts i) journal = [a] ∧ m.get? (hostAt hosts i).id = some a.outcome
  cancelled : ∀ i : Fin hosts.size, x ≤ i.val →
    executions (hostAt hosts i) journal = [] ∧ m.get? (hostAt hosts i).id = some .cancelled

theorem Closed.ran_or_cancelled {h : Host} {o : Outcome} {journal : List Event}
    (hc : Closed h o (trail h journal)) :
    (.started h ∈ journal ∧ ∃ a, executions h journal = [a] ∧ o = a.outcome) ∨
      (.started h ∉ journal ∧ executions h journal = [] ∧ o = .cancelled) := by
  have hmem : .started h ∈ journal ↔ .started h ∈ trail h journal := by simp [mem_trail, Event.host?]
  obtain ⟨r, hr, ht⟩ := hc
  rw [hmem, executions, ht]
  cases hr with
  | ran a => exact .inl ⟨by simp, a, rfl, rfl⟩
  | skipped => exact .inr ⟨by simp, rfl, rfl⟩

theorem started_iff_lt_extent (hj : policy.maxConcurrency ≠ 0)
    (hp : policy.continueOnError = false)
    (h : steps policy hosts (State.initial policy hosts) labels = some s) (hs : s.Finished)
    (he : Eager policy hosts labels) (i : Fin hosts.size) :
    .started (hostAt hosts i) ∈ s.journal ↔ i.val < extent policy hosts.size s.journal := by
  by_cases hnone : fallen s.journal = []
  · rw [extent, if_pos (fallen_eq_nil_iff.mp hnone)]
    refine iff_of_true ?_ i.isLt
    obtain ⟨m, -, -, houts⟩ := exists_outcomes_of_steps hj h hs
    obtain ⟨o, -, hc⟩ := houts i
    rcases hc.ran_or_cancelled with ⟨hstart, -⟩ | ⟨-, -, rfl⟩
    · exact hstart
    · have hfired := (Token.of_steps h).closed _ hc.completed_mem
      exact absurd hnone ((Token.of_steps h).fired_iff.mp (.inl hfired)).2
  · rw [extent, if_neg fun hall => hnone (fallen_eq_nil_iff.mpr hall),
      ← (Halted.of_eager hp h he hnone).attempted i, Attempted, or_iff_left]
    intro hcleared
    cases hs _ hcleared

theorem exists_runUpTo (hj : policy.maxConcurrency ≠ 0) (hp : policy.continueOnError = false)
    (h : steps policy hosts (State.initial policy hosts) labels = some s) (hs : s.Finished)
    (he : Eager policy hosts labels) : ∃ m, s.outcomes = .ok m ∧
      RunUpTo hosts (extent policy hosts.size s.journal) s.journal m := by
  obtain ⟨m, hm, -, houts⟩ := exists_outcomes_of_steps hj h hs
  have hstarted := started_iff_lt_extent hj hp h hs he
  refine ⟨m, hm, fun i hi => ?_, fun i hi => ?_⟩
  · obtain ⟨o, ho, hc⟩ := houts i
    rcases hc.ran_or_cancelled with ⟨-, a, hran, rfl⟩ | ⟨hnot, -⟩
    · exact ⟨a, hran, ho⟩
    · exact absurd ((hstarted i).mpr hi) hnot
  · obtain ⟨o, ho, hc⟩ := houts i
    rcases hc.ran_or_cancelled with ⟨hstart, -⟩ | ⟨-, hnone, rfl⟩
    · exact absurd ((hstarted i).mp hstart) (Nat.not_lt.mpr hi)
    · exact ⟨hnone, ho⟩

/-! ## A whole dispatch -/

/-- Events that are not about a host tell of no answer. -/
theorem RunUpTo.framed {n : Nat} {m : Outcomes} {journal front back : List Event}
    (hfront : ∀ e ∈ front, e.host? = none) (hback : ∀ e ∈ back, e.host? = none)
    (h : RunUpTo hosts (extent policy n journal) journal m) :
    RunUpTo hosts (extent policy n (front ++ journal ++ back)) (front ++ journal ++ back) m := by
  have htrail : ∀ {es : List Event}, (∀ e ∈ es, e.host? = none) → ∀ x, trail x es = [] :=
    fun hes x => List.filter_eq_nil_iff.mpr fun e he => by simp [hes e he]
  have hanswers : ∀ {es : List Event}, (∀ e ∈ es, e.host? = none) → answers es = [] :=
    fun hes => List.filterMap_eq_nil_iff.mpr fun e he => by
      have := hes e he
      cases e <;> simp_all [Event.host?, Event.answer?]
  have hexecutions : ∀ x, executions x (front ++ journal ++ back) = executions x journal := by
    intro x
    rw [executions, trail_append, trail_append, htrail hfront, htrail hback, List.append_nil,
      List.nil_append, executions]
  have hextent : extent policy n (front ++ journal ++ back) = extent policy n journal := by
    simp only [extent, succeeded, answers_append, hanswers hfront, hanswers hback, List.append_nil,
      List.nil_append]
  rw [hextent]
  exact ⟨fun i hi => by rw [hexecutions]; exact h.attempted i hi,
    fun i hi => by rw [hexecutions]; exact h.cancelled i hi⟩

theorem exists_runUpTo_run {σ : Type} (hj : policy.maxConcurrency ≠ 0)
    (hp : policy.continueOnError = false) {pick : Schedule} (hpick : pick.Eager)
    (op : Operation σ) (world : σ) (reports : Bool) :
    let d := run policy hosts pick op world reports
    ∃ m, d.result = .ok m ∧ RunUpTo hosts (extent policy hosts.size d.journal) d.journal m := by
  cases he : hosts.isEmpty with
  | true =>
      have hsize : hosts.size = 0 := List.length_eq_zero_iff.mpr (List.isEmpty_iff.mp he)
      rw [run_of_isEmpty hj he]
      exact ⟨_, rfl, fun i => absurd i.isLt (by omega), fun i => absurd i.isLt (by omega)⟩
  | false =>
      obtain ⟨labels, s, m, world', ⟨hplays, hs, hchosen⟩, hm, -, hello, hrun⟩ :=
        exists_chosen_run hj he pick op world reports
      obtain ⟨m', hm', hupTo⟩ :=
        exists_runUpTo hj hp hplays.steps_eq hs (hpick.of_chosen hchosen)
      obtain rfl : m = m' := Except.ok.inj (hm.symm.trans hm')
      have hback : ∀ e ∈ Event.ended :: (if reports then reportEvents m else []),
          e.host? = none := by
        refine List.forall_mem_cons.mpr ⟨rfl, ?_⟩
        cases reports with
        | false => exact nofun
        | true => exact List.forall_mem_map.mpr fun _ _ => rfl
      rw [hrun]
      exact ⟨m, rfl, hupTo.framed (by simp [debug, Event.host?]) hback⟩

/-- In an eager run under fail-fast, be it an interleaving or a dispatch by an eager schedule, the
hosts attempted are the first ones of the queue: all of them if nothing fails, and else as many as
operations succeeded before the first failure and there are workers. Each has the outcome of its one
execution, and the hosts after them are cancelled. Ending operations by rank is eager. -/
theorem fail_fast_extent (hj : policy.maxConcurrency ≠ 0) (hp : policy.continueOnError = false)
    (hosts : HostSet) :
    (∀ (labels : List Label) (s : State hosts.size),
      steps policy hosts (State.initial policy hosts) labels = some s → s.Finished →
      Eager policy hosts labels → ∃ m, s.outcomes = .ok m ∧
        RunUpTo hosts (extent policy hosts.size s.journal) s.journal m) ∧
    (∀ pick : Schedule, pick.Eager → ∀ (σ : Type) (op : Operation σ) (world : σ) (reports : Bool),
      let d := run policy hosts pick op world reports
      ∃ m, d.result = .ok m ∧ RunUpTo hosts (extent policy hosts.size d.journal) d.journal m) ∧
    ∀ rank, (Schedule.byRank rank).Eager :=
  ⟨fun _ _ h hs he => exists_runUpTo hj hp h hs he,
    fun _ hpick _ op world reports => exists_runUpTo_run hj hp hpick op world reports,
    Schedule.eager_byRank⟩

def fourHosts : HostSet :=
  ⟨[.ofHostname "sdw2", .ofHostname "sdw1", .ofHostname "sdw3", .ofHostname "sdw4"], by decide⟩

/-- One check passes before that of the second host fails, so the third host is attempted too. -/
theorem fail_fast_extent_fourHosts : stopping.maxConcurrency ≠ 0 ∧
    stopping.continueOnError = false ∧
    ∃ m, (run stopping fourHosts Schedule.inOrder diskCheck 0 false).result = .ok m ∧
      RunUpTo fourHosts 3 (run stopping fourHosts Schedule.inOrder diskCheck 0 false).journal m := by
  have hj : stopping.maxConcurrency ≠ 0 := by decide
  obtain ⟨-, hrun, hrank⟩ := fail_fast_extent hj rfl fourHosts
  have hextent : extent stopping fourHosts.size
      (run stopping fourHosts Schedule.inOrder diskCheck 0 false).journal = 3 := by decide
  obtain ⟨m, hm, hupTo⟩ := hrun Schedule.inOrder (hrank id) Nat diskCheck 0 false
  rw [hextent] at hupTo
  exact ⟨hj, rfl, m, hm, hupTo⟩

end Fanout.Dispatch
