import Fanout.Proofs.Retry.Attempt
import Fanout.Proofs.Retry.Delay
import Mathlib.Order.Bounds.Basic

/-!
# The law of attempts

What comes of an operation that is made again depends only on the row of its answers. The attempts end
at the first answer that is an output, breaks off, is a failure not worth another attempt, or uses up
the attempts. That answer is the answer, and each one before it has left a warning with its number.
-/
namespace Fanout

variable {σ : Type}

/-! ## Answers on record -/

/-- Keeps record of the answers of an operation. -/
def Operation.recording (op : Operation σ) : Operation (σ × List Answer) := fun host world =>
  ((op host world.1).1, ((op host world.1).2, world.2 ++ [(op host world.1).1.answer]))

namespace Operation

variable (op : Operation σ) (host : Host)

theorem retrying_recorded (plan : RetryPlan) (worthIt : Failure → Bool) (world : σ) :
    op.retrying plan worthIt host world =
      ((op.recording.retrying plan worthIt host (world, [])).1,
        (op.recording.retrying plan worthIt host (world, [])).2.1) := by
  have hproject : ∀ world : σ × List Answer, op host (Prod.fst world) =
      ((op.recording host world).1, Prod.fst (op.recording host world).2) := fun _ => rfl
  exact plan.attemptFrom_project worthIt hproject _ 0 (world, [])

theorem after_recording (n : Nat) (world : σ) (made : List Answer) :
    op.recording.after host n (world, made) = (op.after host n world,
      made ++ (List.range n).map fun i => (op.inRow host i world).answer) := by
  induction n with
  | zero => simp [after]
  | succ n ih =>
    rw [after_succ, after_succ, ih, List.range_succ, List.map_append, ← List.append_assoc]
    rfl

theorem inRow_recording (n : Nat) (world : σ) (made : List Answer) :
    op.recording.inRow host n (world, made) = op.inRow host n world := by
  rw [inRow, after_recording]
  rfl

end Operation

namespace RetryPlan

variable (plan : RetryPlan) (worthIt : Failure → Bool) (op : Operation σ) (host : Host)

/-! ## A counter of 32 bits -/

/-- The attempts in a loop with a counter of 32 bits. Nothing comes of it if the counter runs over, or
if the loop goes on for more than so many turns. -/
def loop : Nat → UInt32 → σ → Option (Execution × σ)
  | 0, _, _ => none
  | turns + 1, attempt, world =>
    let (e, world') := op host world
    match e.answer with
    | .failure cause =>
      if attempt = 0xFFFFFFFF then none
      else if plan.maxAttempts ≤ attempt + 1 || !worthIt cause then some (e, world')
      else
        match plan.delay attempt with
        | .error x => some (⟨.panic (some x.message), e.log⟩, world')
        | .ok wait => do
          let (e', world'') ← loop turns (attempt + 1) world'
          some (⟨e'.answer, e.log ++ [plan.warning host attempt.toNat cause wait] ++ e'.log⟩,
            world'')
    | _ => some (e, world')

/-- While attempts are left the counter is below their bound, so it can be raised. -/
theorem loop_eq_attemptFrom {turns left : Nat} {attempt : UInt32}
    (hleft : attempt.toNat + left + 1 = max 1 plan.maxAttempts.toNat) (hturns : left < turns)
    (world : σ) : plan.loop worthIt op host turns attempt world =
      some (plan.attemptFrom worthIt op host left attempt.toNat world) := by
  have hbound := plan.maxAttempts.toNat_lt
  induction turns generalizing left attempt world with
  | zero => omega
  | succ turns ih =>
    have hne : attempt ≠ 0xFFFFFFFF := by
      rintro rfl
      have : (0xFFFFFFFF : UInt32).toNat = 4294967295 := rfl
      omega
    have hnext : (attempt + 1).toNat = attempt.toNat + 1 := by
      rw [UInt32.toNat_add, UInt32.toNat_one]
      omega
    have hguard : plan.maxAttempts ≤ attempt + 1 ↔ left = 0 := by
      rw [UInt32.le_iff_toNat_le, hnext]
      omega
    rw [loop]
    cases left with
    | zero =>
      rw [attemptFrom_zero]
      obtain ⟨⟨answer, log⟩, world'⟩ := op host world
      cases answer <;> simp [hne, hguard]
    | succ left =>
      have hrest : plan.loop worthIt op host turns (attempt + 1) (op host world).2 =
          some (plan.attemptFrom worthIt op host left (attempt.toNat + 1) (op host world).2) := by
        rw [← hnext]
        exact ih (by omega) (by omega) (op host world).2
      rw [attemptFrom_succ]
      generalize op host world = first at hrest ⊢
      obtain ⟨⟨answer, log⟩, world'⟩ := first
      cases answer with
      | output text => rfl
      | panic message => rfl
      | failure cause =>
        simp only [hne, hguard, UInt32.ofNat_toNat, if_false, Nat.toUInt32]
        cases worthIt cause with
        | false => simp
        | true => cases plan.delay attempt <;> simp [hrest]

/-- The loop ends within its attempts, the first of which is always made. -/
theorem loop_eq_retrying {turns : Nat} (h : max 1 plan.maxAttempts.toNat ≤ turns) (world : σ) :
    plan.loop worthIt op host turns 0 world = some (op.retrying plan worthIt host world) := by
  have hzero : (0 : UInt32).toNat = 0 := rfl
  exact plan.loop_eq_attemptFrom worthIt op host (by omega) (by omega) world

/-! ## The end of a row of answers -/

/-- Why no attempt follows the one with that number and answer. -/
inductive Ends (m : Nat) : Answer → Prop
  | output (text : String) : Ends m (.output text)
  | panic (message : Option String) : Ends m (.panic message)
  | rejected (cause : Failure) : worthIt cause = false → Ends m (.failure cause)
  | exhausted (cause : Failure) : plan.maxAttempts.toNat ≤ m + 1 → Ends m (.failure cause)

theorem ends_iff (m : Nat) (a : Answer) : plan.Ends worthIt m a ↔
    a.again worthIt = false ∨ plan.maxAttempts.toNat ≤ m + 1 ∧ ∃ cause, a = .failure cause := by
  constructor
  · rintro (_ | _ | ⟨_, h⟩ | ⟨cause, h⟩)
    · exact .inl rfl
    · exact .inl rfl
    · exact .inl h
    · exact .inr ⟨h, cause, rfl⟩
  · rintro (h | ⟨h, cause, rfl⟩)
    · cases a with
      | output text => exact .output text
      | panic message => exact .panic message
      | failure cause => exact .rejected cause h
    · exact .exhausted cause h

theorem exists_failure_of_again {a : Answer} (h : a.again worthIt = true) :
    ∃ cause, a = .failure cause := by
  cases a with
  | failure cause => exact ⟨cause, rfl⟩
  | output text => cases h
  | panic message => cases h

variable {plan worthIt op host} in
theorem LastAttempt.isLeast {world : σ} {m : Nat}
    (h : LastAttempt worthIt op host (plan.maxAttempts.toNat - 1) world m) :
    IsLeast {i | plan.Ends worthIt i (op.inRow host i world).answer} m := by
  constructor
  · show plan.Ends worthIt m (op.inRow host m world).answer
    rw [ends_iff]
    cases hagain : (op.inRow host m world).answer.again worthIt with
    | false => exact .inl rfl
    | true =>
      have hm : m = plan.maxAttempts.toNat - 1 := by simpa [hagain] using h.stops
      exact .inr ⟨by omega, exists_failure_of_again worthIt hagain⟩
  · intro i hi
    replace hi := (plan.ends_iff worthIt i _).mp hi
    have hle := h.le
    refine Nat.le_of_not_lt fun hlt => ?_
    rw [h.again i hlt] at hi
    rcases hi with hi | ⟨hi, -⟩
    · cases hi
    · omega

/-! ## What is written -/

/-- The warning that a failure worth another attempt leaves. -/
structure Warned (m : Nat) (a : Answer) (r : Log.Record) : Prop where
  level : r.level = .warn
  topic : r.topic = Log.Topic.retry
  text : ∃ cause wait, a = .failure cause ∧ plan.delay m.toUInt32 = .ok wait ∧
    r.text = s!"{host.id}: attempt {m + 1}/{plan.maxAttempts.toNat} failed: " ++ cause.chain ++
      ". Retrying in " ++ Decimal.onePlace wait.toSeconds ++ "s..."

/-- What the attempts write, with one record between each two of them. -/
theorem exists_warnings {m attempt : Nat} {world : σ}
    (hagain : ∀ i < m, (op.inRow host i world).answer.again worthIt = true)
    (hdelay : ∀ i < m, ∃ wait, plan.delay (attempt + i).toUInt32 = .ok wait) :
    ∃ w : Nat → Log.Record,
      (∀ i < m, plan.Warned host (attempt + i) (op.inRow host i world).answer (w i)) ∧
      plan.rowLog op host attempt m world =
        ((List.range m).flatMap fun i => (op.inRow host i world).log ++ [w i]) ++
          (op.inRow host m world).log := by
  induction m generalizing attempt world with
  | zero => exact ⟨fun _ => ⟨.warn, Log.Topic.retry, ""⟩, nofun, rfl⟩
  | succ m ih =>
    obtain ⟨cause, hcause⟩ := exists_failure_of_again worthIt (hagain 0 (Nat.succ_pos m))
    obtain ⟨wait, hwait⟩ : ∃ wait, plan.delay attempt.toUInt32 = .ok wait :=
      hdelay 0 (Nat.succ_pos m)
    replace hcause : (op host world).1.answer = .failure cause := hcause
    have hagain' : ∀ i < m, (op.inRow host i (op host world).2).answer.again worthIt = true :=
      fun i hi => hagain (i + 1) (by omega)
    have hdelay' : ∀ i < m, ∃ wait, plan.delay (attempt + 1 + i).toUInt32 = .ok wait := by
      intro i hi
      have := hdelay (i + 1) (by omega)
      rwa [show attempt + 1 + i = attempt + (i + 1) by omega]
    obtain ⟨w, hw, hlog⟩ := ih hagain' hdelay'
    refine ⟨fun i => i.casesOn (plan.warning host attempt cause wait) w, ?_, ?_⟩
    · intro i hi
      cases i with
      | zero => exact ⟨rfl, rfl, cause, wait, hcause, hwait, rfl⟩
      | succ i =>
        rw [show attempt + (i + 1) = attempt + 1 + i by omega]
        exact hw i (by omega)
    · have hnotice : plan.notice host attempt (op host world).1.answer =
          [plan.warning host attempt cause wait] := by
        simp only [notice, hcause, hwait]
      rw [rowLog, hlog, hnotice, List.range_succ_eq_map, List.flatMap_cons, List.flatMap_map,
        ← List.append_assoc]
      rfl

/-! ## The law -/

/-- What the attempts come to that are made in a world, number `m` being the last one: the answers
given, what the attempts answer and write, and the world after them. -/
structure Made (world : σ) (m : Nat) (made : List Answer) (e : Execution) (world' : σ) :
    Prop where
  last : IsLeast {i | plan.Ends worthIt i (op.inRow host i world).answer} m
  made : made = (List.range (m + 1)).map fun i => (op.inRow host i world).answer
  after : world' = op.after host (m + 1) world
  answer : e.answer = (op.inRow host m world).answer
  log : ∃ w : Nat → Log.Record,
    (∀ i < m, plan.Warned host i (op.inRow host i world).answer (w i)) ∧
    e.log = ((List.range m).flatMap fun i => (op.inRow host i world).log ++ [w i]) ++
      (op.inRow host m world).log
  atMost : m + 1 ≤ max 1 plan.maxAttempts.toNat

/-- An operation is made again up to the first answer that ends the attempts. No more are made than
the plan allows, one at least, and a counter of 32 bits does not run over meanwhile. -/
theorem retrying_law (world : σ)
    (hdelay : ∀ i, (∀ j ≤ i, ¬ plan.Ends worthIt j (op.inRow host j world).answer) →
      ∃ wait, plan.delay i.toUInt32 = .ok wait) :
    let result := op.retrying plan worthIt host world
    let recorded := op.recording.retrying plan worthIt host (world, [])
    (∀ turns, max 1 plan.maxAttempts.toNat ≤ turns →
        plan.loop worthIt op host turns 0 world = some result) ∧
      result = (recorded.1, recorded.2.1) ∧
      ∃ m, plan.Made worthIt op host world m recorded.2.2 result.1 result.2 := by
  refine ⟨fun turns h => plan.loop_eq_retrying worthIt op host h world,
    op.retrying_recorded host plan worthIt world, ?_⟩
  obtain ⟨m, hm⟩ := exists_lastAttempt worthIt op host (plan.maxAttempts.toNat - 1) world
  have hleast := hm.isLeast
  have hle := hm.le
  have hwaits : ∀ i < m, ∃ wait, plan.delay (0 + i).toUInt32 = .ok wait := by
    intro i hi
    rw [Nat.zero_add]
    refine hdelay i fun j hj hend => ?_
    have := hleast.2 hend
    omega
  have hrecorded : LastAttempt worthIt op.recording host (plan.maxAttempts.toNat - 1)
      (world, []) m := by
    refine ⟨hm.le, ?_, ?_⟩
    · intro i hi
      rw [Operation.inRow_recording]
      exact hm.again i hi
    · rw [Operation.inRow_recording]
      exact hm.stops
  rw [Operation.retrying, Operation.retrying, attemptFrom_of_last plan worthIt op host hm hwaits,
    attemptFrom_of_last plan worthIt op.recording host hrecorded hwaits, Operation.after_recording,
    List.nil_append]
  obtain ⟨w, hw, hlog⟩ := plan.exists_warnings worthIt op host hm.again hwaits
  refine ⟨m, hleast, rfl, rfl, rfl, ⟨w, ?_, hlog⟩, by omega⟩
  intro i hi
  have := hw i hi
  rwa [Nat.zero_add] at this

/-- An operation that fails twice in a world that counts its executions. -/
def failingTwice : Operation Nat := fun _ n =>
  (⟨if n < 2 then .failure (.message "no route to host") else .output "up", []⟩, n + 1)

/-- Four attempts are allowed, and the third one is the last. -/
theorem retrying_law_failingTwice :
    let plan := withRetries 3
    let host := Host.ofHostname "sdw1"
    (∀ i, (∀ j ≤ i, ¬ plan.Ends (fun _ => true) j (failingTwice.inRow host j 0).answer) →
      ∃ wait, plan.delay i.toUInt32 = .ok wait) ∧
    plan.Made (fun _ => true) failingTwice host 0 2
      [.failure (.message "no route to host"), .failure (.message "no route to host"), .output "up"]
      (failingTwice.retrying plan (fun _ => true) host 0).1 3 := by
  intro plan host
  have hdelay : ∀ i, (∀ j ≤ i, ¬ plan.Ends (fun _ => true) j (failingTwice.inRow host j 0).answer) →
      ∃ wait, plan.delay i.toUInt32 = .ok wait :=
    fun i _ => (waitable_withRetries 3).exists_delay i.toUInt32
  obtain ⟨-, -, m, hm⟩ := retrying_law plan (fun _ => true) failingTwice host 0 hdelay
  have hlast : IsLeast {i | plan.Ends (fun _ => true) i (failingTwice.inRow host i 0).answer} 2 := by
    refine ⟨.output "up", fun i hi => ?_⟩
    rcases (plan.ends_iff _ i _).mp hi with hno | ⟨hmax, -⟩
    · match i with
      | 0 | 1 => cases hno
      | i + 2 => exact Nat.le_add_left 2 i
    · have hfour : plan.maxAttempts.toNat = 4 := rfl
      omega
  obtain rfl : m = 2 := hm.last.unique hlast
  rw [hm.made, hm.after] at hm
  exact ⟨hdelay, hm⟩

end RetryPlan

end Fanout
