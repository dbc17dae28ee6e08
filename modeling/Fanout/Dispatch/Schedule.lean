import Fanout.Dispatch.Machine

/-!
# Schedules

A schedule says at every state which worker acts next. Where the worker it names cannot act, the
first one that can does, so every function is a schedule and every interleaving has one. Driving
the pool by a schedule takes a bounded number of steps: seven per host and one more per worker.
-/
namespace Fanout.Dispatch

namespace Phase

/-- Whether a worker has something left to do. -/
def isDone {n : Nat} : Phase n → Bool
  | .done => true
  | _ => false

/-- The place of the host whose operation is in flight. -/
def runningAt? {n : Nat} : Phase n → Option (Fin n)
  | .running i => some i
  | _ => none

end Phase

/-- Names the worker that acts next. -/
abbrev Schedule := (n : Nat) → State n → Nat

namespace Schedule

/-- Every worker acts until its operation runs; then the operation of the least rank ends, where
ranks are by place in the queue and of equal ranks the earlier place comes first. -/
def byRank (rank : Nat → Nat) : Schedule := fun _ s =>
  let free := s.workers.findIdx? fun p => !p.isDone && p.runningAt?.isNone
  let before := fun (a b : Nat × Nat × Nat) =>
    a.1 < b.1 || (a.1 == b.1 && a.2.1 < b.2.1)
  let running := s.workers.zipIdx.filterMap fun (p, w) =>
    p.runningAt?.map fun i => (rank i.val, i.val, w)
  let least := running.foldl (fun best x =>
    match best with
    | none => some x
    | some y => some (if before x y then x else y)) none
  free.getD (least.elim 0 fun x => x.2.2)

/-- One worker after the other, each as far as it gets. -/
def inOrder : Schedule := byRank id

/-- The worker a schedule lets act: the one it names, or the first that can. -/
def choose {n : Nat} (pick : Schedule) (s : State n) : Option Nat :=
  let w := pick n s
  match s.workers[w]? with
  | some p => if p.isDone then s.workers.findIdx? (!·.isDone) else some w
  | none => s.workers.findIdx? (!·.isDone)

end Schedule

/-- Drives the pool for at most so many steps, running the operation where one is in flight. -/
def drive {σ : Type} (policy : Policy) (hosts : HostSet) (pick : Schedule) (op : Operation σ) :
    Nat → State hosts.size → σ → State hosts.size × σ
  | 0, s, world => (s, world)
  | fuel + 1, s, world =>
    match Schedule.choose pick s with
    | none => (s, world)
    | some w =>
      match s.workers[w]?.bind Phase.runningAt? with
      | some i =>
        let (e, world') := op (hostAt hosts i) world
        match step policy hosts s (.finish w e) with
        | some s' => drive policy hosts pick op fuel s' world'
        | none => (s, world)
      | none =>
        match step policy hosts s (.move w) with
        | some s' => drive policy hosts pick op fuel s' world
        | none => (s, world)

/-- How many steps a pool takes at most. -/
def stepBound (n workers : Nat) : Nat :=
  7 * n + workers

end Fanout.Dispatch
