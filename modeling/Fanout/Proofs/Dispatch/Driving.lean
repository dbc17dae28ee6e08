import Fanout.Dispatch.Run
import Fanout.Proofs.Dispatch.Coverage

/-!
# Driving the pool to its end

Every step lowers a rank, so no run is longer than the bound a dispatch is given, and as long as a
worker has not left its loop there is a step. So driving the pool ends with all workers done, and
what it does is one of the pool's interleavings, with the operation's own answers.
-/
namespace Fanout.Dispatch

/-! ## The rank -/

/-- How many steps a worker may still take with the host in its hands. -/
def Phase.rank {n : Nat} : Phase n → Nat
  | .holding _ => 7
  | .cleared _ => 6
  | .running _ => 5
  | .failing _ _ => 4
  | .settled _ _ => 3
  | .announced _ _ => 2
  | .idle => 1
  | .done => 0

/-- How many steps the pool may still take. -/
def State.rank {n : Nat} (s : State n) : Nat :=
  7 * (n - s.next) + weigh Phase.rank s.workers

variable {policy : Policy} {hosts : HostSet} {s s' : State hosts.size} {l : Label}

theorem rank_initial : (State.initial policy hosts).rank =
    stepBound hosts.size (State.poolSize policy hosts.size) := by
  simp [State.rank, State.initial, stepBound, weigh_replicate, Phase.rank]

theorem Advance.rank_lt {w : Nat} {i : Fin hosts.size} {c fired : Bool} {p p' : Phase hosts.size}
    {es : List Event} (ha : Advance policy hosts w i c l p p' es fired) : p'.rank < p.rank := by
  cases ha <;> simp [Phase.rank]

theorem Action.rank_lt (ha : Action policy hosts s l s') : s'.rank < s.rank := by
  cases ha with
  | pull hw hn =>
      have := weigh_set Phase.rank (q := .holding ⟨s.next, hn⟩) hw
      simp only [Phase.rank] at this
      simp only [State.rank, State.put]
      omega
  | leave hw hn =>
      have := weigh_set Phase.rank (q := .done) hw
      simp only [Phase.rank] at this
      simp only [State.rank, State.put]
      omega
  | @advance w i l p p' es fired hw ha =>
      have := weigh_set Phase.rank (q := p') hw
      have hlt := ha.rank_lt
      simp only [State.rank, State.put, State.note]
      omega
  | record hw hc =>
      have := weigh_set Phase.rank (q := .idle) hw
      simp only [Phase.rank] at this
      simp only [State.rank, State.put]
      omega
  | refuse r hw hc =>
      have := weigh_set Phase.rank (q := .idle) hw
      simp only [Phase.rank] at this
      simp only [State.rank, State.put, State.note]
      omega

/-! ## Something to do -/

/-- A worker whose operation is in flight can end it, whatever the operation did. -/
theorem exists_step_finish {w : Nat} {i : Fin hosts.size}
    (hw : s.workers[w]? = some (.running i)) (e : Execution) :
    ∃ s', step policy hosts s (.finish w e) = some s' := by
  simp only [step, hw]
  exact ⟨_, rfl⟩

/-- Any other worker that has not left its loop can move. -/
theorem exists_step_move {w : Nat} {p : Phase hosts.size} (hw : s.workers[w]? = some p)
    (hp : p.isDone = false) (hrun : p.runningAt? = none) :
    ∃ s', step policy hosts s (.move w) = some s' := by
  simp only [step, hw]
  cases p with
  | running => cases hrun
  | done => cases hp
  | _ => exact ⟨_, rfl⟩

namespace Schedule

variable {pick : Schedule} {n : Nat} {t : State n}

theorem exists_of_choose_eq_some {w : Nat} (h : choose pick t = some w) :
    ∃ p, t.workers[w]? = some p ∧ p.isDone = false := by
  have hfirst : ∀ v, t.workers.findIdx? (!·.isDone) = some v →
      ∃ p, t.workers[v]? = some p ∧ p.isDone = false := by
    intro v hv
    obtain ⟨hlt, hp, -⟩ := List.findIdx?_eq_some_iff_getElem.mp hv
    exact ⟨_, List.getElem?_eq_getElem hlt, by simpa using hp⟩
  simp only [choose] at h
  split at h
  · split at h
    · exact hfirst w h
    · cases h
      exact ⟨_, ‹_›, Bool.eq_false_iff.mpr ‹_›⟩
  · exact hfirst w h

theorem finished_of_choose_eq_none (h : choose pick t = none) : t.Finished := by
  have hfirst : t.workers.findIdx? (!·.isDone) = none → t.Finished := by
    intro hnone p hp
    have := List.findIdx?_eq_none_iff.mp hnone p hp
    simpa using this
  simp only [choose] at h
  split at h
  · split at h
    · exact hfirst h
    · cases h
  · exact hfirst h

end Schedule

/-! ## Interleavings of an operation -/

/-- A run of the pool in which every operation that ends did so in the world of that moment. -/
inductive Plays {σ : Type} (policy : Policy) (hosts : HostSet) (op : Operation σ) :
    State hosts.size → σ → List Label → State hosts.size → σ → Prop where
  | nil (s : State hosts.size) (world : σ) : Plays policy hosts op s world [] s world
  | move {s t s' : State hosts.size} {world world' : σ} {w : Nat} {labels : List Label}
      (hs : step policy hosts s (.move w) = some t)
      (rest : Plays policy hosts op t world labels s' world') :
      Plays policy hosts op s world (.move w :: labels) s' world'
  | finish {s t s' : State hosts.size} {world world' : σ} {w : Nat} {i : Fin hosts.size}
      {labels : List Label} (hw : s.workers[w]? = some (.running i))
      (hs : step policy hosts s (.finish w (op (hostAt hosts i) world).1) = some t)
      (rest : Plays policy hosts op t (op (hostAt hosts i) world).2 labels s' world') :
      Plays policy hosts op s world (.finish w (op (hostAt hosts i) world).1 :: labels) s' world'

variable {σ : Type} {op : Operation σ} {world world' : σ} {labels : List Label}

theorem Plays.steps_eq (h : Plays policy hosts op s world labels s' world') :
    steps policy hosts s labels = some s' := by
  induction h with
  | nil => rfl
  | move hs rest ih => simp [steps, hs, ← ih]
  | finish hw hs rest ih => simp [steps, hs, ← ih]

theorem finished_of_rank_eq_zero (h : s.rank = 0) : s.Finished := by
  intro p hp
  have hsum : weigh Phase.rank s.workers = 0 := (Nat.add_eq_zero_iff.mp h).2
  have hrank : p.rank = 0 := Nat.le_zero.mp (hsum ▸ le_weigh Phase.rank hp)
  cases p <;> simp [Phase.rank] at hrank
  rfl

/-- A step is one that a schedule chooses. -/
def Schedule.Chooses (pick : Schedule) {n : Nat} (t : State n) : Label → Prop
  | .move w => choose pick t = some w
  | .finish w _ => choose pick t = some w ∧ ∃ i, t.workers[w]? = some (.running i)

/-- With enough steps to spend, driving the pool is a run to its end, of steps that are chosen. -/
theorem drive_chosen (pick : Schedule) (op : Operation σ) {fuel : Nat} (hfuel : s.rank ≤ fuel)
    (world : σ) : ∃ labels,
      Plays policy hosts op s world labels (drive policy hosts pick op fuel s world).1
        (drive policy hosts pick op fuel s world).2 ∧
      (drive policy hosts pick op fuel s world).1.Finished ∧
      Along policy hosts pick.Chooses s labels := by
  induction fuel generalizing s world with
  | zero => exact ⟨[], .nil s world, finished_of_rank_eq_zero (Nat.le_zero.mp hfuel), .nil⟩
  | succ fuel ih =>
      have hlower : ∀ {l t}, step policy hosts s l = some t → t.rank ≤ fuel := fun ht =>
        Nat.le_of_lt_succ (Nat.lt_of_lt_of_le (step_action ht).rank_lt hfuel)
      cases hchoose : Schedule.choose pick s with
      | none =>
          simp only [drive, hchoose]
          exact ⟨[], .nil s world, Schedule.finished_of_choose_eq_none hchoose, .nil⟩
      | some w =>
          -- The chosen worker has something to do, so there is a step.
          obtain ⟨p, hw, hp⟩ := Schedule.exists_of_choose_eq_some hchoose
          cases hrun : p.runningAt? with
          | none =>
              obtain ⟨t, ht⟩ : ∃ t, step policy hosts s (.move w) = some t :=
                exists_step_move hw hp hrun
              simp only [drive, hchoose, hw, Option.bind_some, hrun, ht]
              obtain ⟨labels, hplays, hend, hrest⟩ := ih (hlower ht) world
              exact ⟨_, .move ht hplays, hend, hrest.cons hchoose ht⟩
          | some i =>
              obtain rfl : p = .running i := by
                cases p <;> simp only [Phase.runningAt?, reduceCtorEq, Option.some.injEq] at hrun
                rw [hrun]
              obtain ⟨t, ht⟩ : ∃ t,
                  step policy hosts s (.finish w (op (hostAt hosts i) world).1) = some t :=
                exists_step_finish hw _
              simp only [drive, hchoose, hw, Option.bind_some, hrun, ht]
              obtain ⟨labels, hplays, hend, hrest⟩ := ih (hlower ht) (op (hostAt hosts i) world).2
              exact ⟨_, .finish hw ht hplays, hend, hrest.cons ⟨hchoose, i, hw⟩ ht⟩

/-! ## Every interleaving has a schedule -/

namespace Schedule

/-- Names the worker that acts at each rank. -/
def following (turns : List (Nat × Nat)) : Schedule := fun _ s =>
  (turns.lookup s.rank).getD 0

theorem following_append {n : Nat} {t : State n} {front turns : List (Nat × Nat)} {w : Nat}
    (hfront : ∀ x ∈ front, t.rank < x.1) :
    following (front ++ (t.rank, w) :: turns) n t = w := by
  have hnone : front.lookup t.rank = none := by
    refine List.lookup_eq_none_iff.mpr fun x hx => ?_
    simpa using Nat.ne_of_lt (hfront x hx)
  simp [following, List.lookup_append, hnone]

theorem choose_of_finished {pick : Schedule} {n : Nat} {t : State n} (h : t.Finished) :
    choose pick t = none := by
  have hnone : t.workers.findIdx? (!·.isDone) = none :=
    List.findIdx?_eq_none_iff.mpr fun p hp => by simp [h p hp]
  simp only [choose]
  split
  · rename_i p hp
    simp [h p (List.mem_of_getElem? hp), hnone]
  · exact hnone

theorem choose_of_eq {pick : Schedule} {n : Nat} {t : State n} {w : Nat} {p : Phase n}
    (hpick : pick n t = w) (hw : t.workers[w]? = some p) (hp : p.isDone = false) :
    choose pick t = some w := by
  simp [choose, hpick, hw, hp]

end Schedule

theorem phase_of_step_move {w : Nat} (h : step policy hosts s (.move w) = some s') :
    ∃ p, s.workers[w]? = some p ∧ p.isDone = false ∧ p.runningAt? = none := by
  simp only [step] at h
  split at h <;> first | exact ⟨_, ‹_›, rfl, rfl⟩ | cases h

/-- Turns taken at higher ranks, with the present one, are all above what a step leaves. -/
theorem lt_of_mem_turns {front : List (Nat × Nat)} {r r' w : Nat} (hfront : ∀ x ∈ front, r < x.1)
    (hlt : r' < r) : ∀ x ∈ front ++ [(r, w)], r' < x.1 := by
  intro x hx
  rcases List.mem_append.mp hx with hx | hx
  · exact Nat.lt_trans hlt (hfront x hx)
  · obtain rfl := List.mem_singleton.mp hx
    exact hlt

/-- A run to the end is what driving by its own turns does. The turns are told apart by the rank of
the state, which no later state has. -/
theorem Plays.exists_turns (h : Plays policy hosts op s world labels s' world')
    (hs : s'.Finished) : ∃ turns, ∀ front, (∀ x ∈ front, s.rank < x.1) → ∀ fuel, s.rank ≤ fuel →
      drive policy hosts (Schedule.following (front ++ turns)) op fuel s world = (s', world') := by
  induction h with
  | nil s world =>
      refine ⟨[], fun front _ fuel _ => ?_⟩
      cases fuel with
      | zero => rfl
      | succ fuel => simp only [drive, Schedule.choose_of_finished hs]
  | @move s t s' world world' w labels ht rest ih =>
      obtain ⟨turns, hturns⟩ := ih hs
      refine ⟨(s.rank, w) :: turns, fun front hfront fuel hfuel => ?_⟩
      have hlt := (step_action ht).rank_lt
      obtain ⟨p, hw, hp, hrun⟩ := phase_of_step_move ht
      obtain ⟨fuel, rfl⟩ := Nat.exists_eq_succ_of_ne_zero (show fuel ≠ 0 by omega)
      have hpick : Schedule.following (front ++ (s.rank, w) :: turns) hosts.size s = w :=
        Schedule.following_append hfront
      simp only [drive, Schedule.choose_of_eq hpick hw hp, hw, Option.bind_some, hrun, ht]
      simpa using hturns _ (lt_of_mem_turns hfront hlt) fuel (by omega)
  | @finish s t s' world world' w i labels hw ht rest ih =>
      obtain ⟨turns, hturns⟩ := ih hs
      refine ⟨(s.rank, w) :: turns, fun front hfront fuel hfuel => ?_⟩
      have hlt := (step_action ht).rank_lt
      obtain ⟨fuel, rfl⟩ := Nat.exists_eq_succ_of_ne_zero (show fuel ≠ 0 by omega)
      have hpick : Schedule.following (front ++ (s.rank, w) :: turns) hosts.size s = w :=
        Schedule.following_append hfront
      simp only [drive, Schedule.choose_of_eq hpick hw rfl, hw, Option.bind_some,
        Phase.runningAt?, ht]
      simpa using hturns _ (lt_of_mem_turns hfront hlt) fuel (by omega)

/-- Every interleaving in which all workers leave their loops is what some schedule does. -/
theorem Plays.exists_schedule
    (h : Plays policy hosts op (State.initial policy hosts) world labels s' world')
    (hs : s'.Finished) : ∃ pick, drive policy hosts pick op
      (stepBound hosts.size (State.poolSize policy hosts.size)) (State.initial policy hosts) world =
        (s', world') := by
  obtain ⟨turns, hturns⟩ := h.exists_turns hs
  exact ⟨_, hturns [] (by simp) _ (Nat.le_of_eq rank_initial)⟩

/-! ## A whole dispatch -/

/-- A dispatch on some hosts is a run to its end between two announcements, and then the report. The
steps of the run are those that the schedule chooses. -/
theorem exists_chosen_run (hj : policy.maxConcurrency ≠ 0) (hne : hosts.isEmpty = false) (pick : Schedule)
    (op : Operation σ) (world : σ) (reports : Bool) : ∃ labels s m world',
      (Plays policy hosts op (State.initial policy hosts) world labels s world' ∧ s.Finished ∧
        Along policy hosts pick.Chooses (State.initial policy hosts) labels) ∧
      s.outcomes = .ok m ∧ m.ids.Perm hosts.ids ∧
      ∃ hello, run policy hosts pick op world reports =
        ⟨.ok m, ([debug hello, .begun hosts.size] ++ s.journal) ++ .ended ::
          (if reports then reportEvents m else []), world'⟩ := by
  obtain ⟨labels, hplays, hend, hchosen⟩ :=
    drive_chosen (s := State.initial policy hosts) pick op (Nat.le_of_eq rank_initial) world
  obtain ⟨m, hm, hids, -⟩ := exists_outcomes_of_steps hj hplays.steps_eq hend
  refine ⟨labels, _, m, _, ⟨hplays, hend, hchosen⟩, hm, hids, ?_⟩
  simp only [run, hj, hne, ↓reduceIte, Bool.false_eq_true, hm, List.append_assoc,
    List.singleton_append]
  exact ⟨_, rfl⟩

theorem exists_run (hj : policy.maxConcurrency ≠ 0) (hne : hosts.isEmpty = false) (pick : Schedule)
    (op : Operation σ) (world : σ) (reports : Bool) : ∃ labels s m world',
      Plays policy hosts op (State.initial policy hosts) world labels s world' ∧ s.Finished ∧
      s.outcomes = .ok m ∧ m.ids.Perm hosts.ids ∧
      ∃ hello, run policy hosts pick op world reports =
        ⟨.ok m, ([debug hello, .begun hosts.size] ++ s.journal) ++ .ended ::
          (if reports then reportEvents m else []), world'⟩ := by
  obtain ⟨labels, s, m, world', ⟨hplays, hend, -⟩, hrun⟩ :=
    exists_chosen_run hj hne pick op world reports
  exact ⟨labels, s, m, world', hplays, hend, hrun⟩

theorem run_of_isEmpty (hj : policy.maxConcurrency ≠ 0) (he : hosts.isEmpty = true)
    (pick : Schedule) (op : Operation σ) (world : σ) (reports : Bool) :
    run policy hosts pick op world reports =
      ⟨.ok Outcomes.empty, [debug "dispatch with no hosts, nothing to do"], world⟩ := by
  simp only [run, hj, he, ↓reduceIte]

theorem exists_result (hj : policy.maxConcurrency ≠ 0) (pick : Schedule) (op : Operation σ)
    (world : σ) (reports : Bool) :
    ∃ m, (run policy hosts pick op world reports).result = .ok m ∧ m.ids.Perm hosts.ids := by
  cases he : hosts.isEmpty with
  | true =>
      have hnil : hosts.ids = [] := by
        rw [HostSet.ids, List.isEmpty_iff.mp he, List.map_nil]
      rw [run_of_isEmpty hj he, hnil]
      exact ⟨_, rfl, .nil⟩
  | false =>
      obtain ⟨labels, s, m, world', -, -, -, hids, hello, hrun⟩ :=
        exists_run hj he pick op world reports
      rw [hrun]
      exact ⟨m, rfl, hids⟩

end Fanout.Dispatch
