import Fanout.Retry.Attempt

/-!
# Which attempt is the last

An operation made again is the operation executed several times in a row, each time in the world that
the time before has left. The last execution is the first one that is not worth another, or the one
that uses up the attempts; its answer is the answer.
-/
namespace Fanout

variable {σ τ : Type}

/-- Whether an answer is a failure that is worth another attempt. -/
def Answer.again (worthIt : Failure → Bool) : Answer → Bool
  | .failure cause => worthIt cause
  | _ => false

namespace Operation

variable (op : Operation σ) (host : Host)

/-- The world after so many executions in a row. -/
def after : Nat → σ → σ
  | 0, world => world
  | n + 1, world => after n (op host world).2

/-- One of the executions in a row, the first having the number 0. -/
def inRow (n : Nat) (world : σ) : Execution :=
  (op host (op.after host n world)).1

theorem after_succ (n : Nat) (world : σ) :
    op.after host (n + 1) world = (op host (op.after host n world)).2 := by
  induction n generalizing world with
  | zero => rfl
  | succ n ih => exact ih (op host world).2

end Operation

namespace RetryPlan

variable (plan : RetryPlan) (worthIt : Failure → Bool) (op : Operation σ) (host : Host)

/-- What is written after an attempt before it is made again. -/
def notice (attempt : Nat) (a : Answer) : List Log.Record :=
  match a, plan.delay attempt.toUInt32 with
  | .failure cause, .ok wait => [plan.warning host attempt cause wait]
  | _, _ => []

/-- What `m + 1` attempts write, the first of them having the number `attempt`. -/
def rowLog : Nat → Nat → σ → List Log.Record
  | _, 0, world => (op host world).1.log
  | attempt, m + 1, world =>
    (op host world).1.log ++ plan.notice host attempt (op host world).1.answer ++
      rowLog (attempt + 1) m (op host world).2

/-! ## One attempt -/

theorem attemptFrom_zero (attempt : Nat) (world : σ) :
    plan.attemptFrom worthIt op host 0 attempt world = op host world := rfl

theorem attemptFrom_succ (left attempt : Nat) (world : σ) :
    plan.attemptFrom worthIt op host (left + 1) attempt world =
      match (op host world).1.answer with
      | .failure cause =>
        if worthIt cause then
          match plan.delay attempt.toUInt32 with
          | .error x => (⟨.panic (some x.message), (op host world).1.log⟩, (op host world).2)
          | .ok wait =>
            let rest := plan.attemptFrom worthIt op host left (attempt + 1) (op host world).2
            (⟨rest.1.answer, (op host world).1.log ++ [plan.warning host attempt cause wait] ++
              rest.1.log⟩, rest.2)
        else op host world
      | _ => op host world := by
  rw [attemptFrom]
  obtain ⟨⟨answer, log⟩, world'⟩ := op host world
  cases answer <;> rfl

/-- What the first attempt writes to the log stays there. -/
theorem mem_log_attemptFrom {world : σ} {r : Log.Record} (h : r ∈ (op host world).1.log)
    (left attempt : Nat) : r ∈ (plan.attemptFrom worthIt op host left attempt world).1.log := by
  cases left with
  | zero => exact h
  | succ left =>
    rw [attemptFrom_succ]
    split
    · split
      · split
        · exact h
        · exact List.mem_append_left _ (List.mem_append_left _ h)
      · exact h
    · exact h

theorem attemptFrom_stop {left : Nat} {world : σ}
    (h : left = 0 ∨ (op host world).1.answer.again worthIt = false) (attempt : Nat) :
    plan.attemptFrom worthIt op host left attempt world = op host world := by
  cases left with
  | zero => rfl
  | succ left =>
    replace h : (op host world).1.answer.again worthIt = false := by simpa using h
    rw [attemptFrom_succ]
    split
    · rename_i cause ha
      have hno : worthIt cause = false := by simpa [ha, Answer.again] using h
      simp [hno]
    · rfl

theorem attemptFrom_again {world : σ} (h : (op host world).1.answer.again worthIt = true)
    {attempt : Nat} {wait : Span} (hwait : plan.delay attempt.toUInt32 = .ok wait) (left : Nat) :
    let rest := plan.attemptFrom worthIt op host left (attempt + 1) (op host world).2
    plan.attemptFrom worthIt op host (left + 1) attempt world =
      (⟨rest.1.answer, (op host world).1.log ++
        plan.notice host attempt (op host world).1.answer ++ rest.1.log⟩, rest.2) := by
  rw [attemptFrom_succ]
  cases ha : (op host world).1.answer with
  | failure cause =>
    have hyes : worthIt cause = true := by simpa [ha, Answer.again] using h
    simp only [hyes, if_true, hwait, notice]
  | output text => simp [ha, Answer.again] at h
  | panic message => simp [ha, Answer.again] at h

/-! ## The row of attempts -/

/-- Attempt `m` of those in a row is the last if `left` may follow the first. -/
structure LastAttempt (left : Nat) (world : σ) (m : Nat) : Prop where
  le : m ≤ left
  again : ∀ i < m, (op.inRow host i world).answer.again worthIt = true
  stops : m = left ∨ (op.inRow host m world).answer.again worthIt = false

theorem exists_lastAttempt (left : Nat) (world : σ) :
    ∃ m, LastAttempt worthIt op host left world m := by
  induction left generalizing world with
  | zero => exact ⟨0, Nat.le_refl 0, nofun, .inl rfl⟩
  | succ left ih =>
    cases h : (op host world).1.answer.again worthIt with
    | false => exact ⟨0, Nat.zero_le _, nofun, .inr h⟩
    | true =>
      obtain ⟨m, hm⟩ := ih (op host world).2
      refine ⟨m + 1, Nat.succ_le_succ hm.le, ?_, ?_⟩
      · intro i hi
        cases i with
        | zero => exact h
        | succ i => exact hm.again i (by omega)
      · rcases hm.stops with rfl | hno
        · exact .inl rfl
        · exact .inr hno

/-- The attempts are executions in a row up to the last, whose answer is the answer. -/
theorem attemptFrom_of_last {left attempt m : Nat} {world : σ}
    (hm : LastAttempt worthIt op host left world m)
    (hdelay : ∀ i < m, ∃ wait, plan.delay (attempt + i).toUInt32 = .ok wait) :
    plan.attemptFrom worthIt op host left attempt world =
      (⟨(op.inRow host m world).answer, plan.rowLog op host attempt m world⟩,
        op.after host (m + 1) world) := by
  induction m generalizing left attempt world with
  | zero => exact attemptFrom_stop plan worthIt op host (hm.stops.imp Eq.symm id) attempt
  | succ m ih =>
    obtain ⟨left, rfl⟩ : ∃ k, left = k + 1 := ⟨left - 1, by have := hm.le; omega⟩
    obtain ⟨wait, hwait⟩ : ∃ wait, plan.delay attempt.toUInt32 = .ok wait := hdelay 0 (by omega)
    have hrest : LastAttempt worthIt op host left (op host world).2 m :=
      ⟨Nat.le_of_succ_le_succ hm.le, fun i hi => hm.again (i + 1) (by omega),
        hm.stops.imp_left Nat.succ.inj⟩
    have hdelay' : ∀ i < m, ∃ wait, plan.delay (attempt + 1 + i).toUInt32 = .ok wait := by
      intro i hi
      have := hdelay (i + 1) (by omega)
      rwa [show attempt + 1 + i = attempt + (i + 1) by omega]
    have hagain : (op host world).1.answer.again worthIt = true := hm.again 0 (by omega)
    rw [attemptFrom_again plan worthIt op host hagain hwait left, ih hrest hdelay']
    rfl

/-! ## Worlds with more in them -/

variable {op host} in
/-- What an operation is made again in may hold more than the operation sees. -/
theorem attemptFrom_project {op' : Operation τ} {f : τ → σ}
    (h : ∀ world, op host (f world) = ((op' host world).1, f (op' host world).2))
    (left attempt : Nat) (world : τ) :
    plan.attemptFrom worthIt op host left attempt (f world) =
      ((plan.attemptFrom worthIt op' host left attempt world).1,
        f (plan.attemptFrom worthIt op' host left attempt world).2) := by
  induction left generalizing attempt world with
  | zero => exact h world
  | succ left ih =>
    rw [attemptFrom_succ, attemptFrom_succ, h]
    obtain ⟨⟨answer, log⟩, world'⟩ := op' host world
    cases answer with
    | failure cause =>
      dsimp only
      cases worthIt cause with
      | false => rfl
      | true =>
        cases plan.delay attempt.toUInt32 with
        | error x => rfl
        | ok wait => simp only [if_true, ih]
    | output text => rfl
    | panic message => rfl

end RetryPlan

/-- A plan of one attempt makes nothing again. -/
theorem Operation.retrying_of_one {plan : RetryPlan} (h : plan.maxAttempts = 1) (op : Operation σ)
    (worthIt : Failure → Bool) : op.retrying plan worthIt = op := by
  funext host world
  rw [Operation.retrying, h]
  exact RetryPlan.attemptFrom_stop plan worthIt op host (.inl rfl) 0

end Fanout
