import Fanout.Collector
import Fanout.Dispatch.Policy
import Fanout.Host.Set
import Fanout.Operation

/-!
# The worker pool

The workers of a dispatch share a queue counter, a cancel token and a collector. Each worker takes
the next host of the queue, reads the token, runs the operation if the token has not fired, fires
it after a failure under fail-fast, announces the outcome and records it; then it starts over until
the queue is empty. A step is one of these actions of one worker. Any order of steps is an
interleaving of the pool, and the journal tells what an observer and the log saw of it.
-/
namespace Fanout.Dispatch

/-- What an observer and the log see of a dispatch. -/
inductive Event where
  /-- The dispatch begins, on so many hosts. -/
  | begun (total : Nat)
  /-- A host's operation is about to run. -/
  | started (host : Host)
  /-- A host's operation has run. -/
  | executed (host : Host) (answer : Answer)
  /-- A host has its outcome. -/
  | completed (host : Host) (outcome : Outcome)
  /-- The dispatch is over. -/
  | ended
  | logged (record : Log.Record)

/-- Where a worker stands in its loop, on a queue of `n` hosts. -/
inductive Phase (n : Nat) where
  /-- About to take the next host. -/
  | idle
  /-- Has taken a host and not read the token. -/
  | holding (i : Fin n)
  /-- Has read the token, which had not fired. -/
  | cleared (i : Fin n)
  /-- The operation is in flight. -/
  | running (i : Fin n)
  /-- The operation failed and the token is to be fired. -/
  | failing (i : Fin n) (o : Outcome)
  /-- The outcome is known and not announced. -/
  | settled (i : Fin n) (o : Outcome)
  /-- The outcome is announced and not recorded. -/
  | announced (i : Fin n) (o : Outcome)
  /-- The queue was empty; the worker has left its loop. -/
  | done

structure State (n : Nat) where
  /-- The place in the queue of the next host to be taken. -/
  next : Nat
  /-- Whether the token has fired. -/
  cancelled : Bool
  workers : List (Phase n)
  collector : Collector
  /-- The first fault of the bookkeeping. -/
  fault : Option Fault
  journal : List Event

/-- One action of one worker; the end of an operation comes with what it did. -/
inductive Label where
  | move (worker : Nat)
  | finish (worker : Nat) (execution : Execution)

/-- The host at a place of the queue. -/
def hostAt (hosts : HostSet) (i : Fin hosts.size) : Host :=
  hosts.hosts.get i

def debug (text : String) : Event :=
  .logged ⟨.debug, Log.Topic.dispatcher, text⟩

namespace State

/-- The number of workers: no more than there are hosts. -/
def poolSize (policy : Policy) (n : Nat) : Nat :=
  min policy.maxConcurrency.toNat n

/-- The pool before its first step. -/
def initial (policy : Policy) (hosts : HostSet) : State hosts.size :=
  { next := 0
    cancelled := false
    workers := List.replicate (poolSize policy hosts.size) .idle
    collector := Collector.ofIds hosts.ids
    fault := none
    journal := [] }

def put {n : Nat} (s : State n) (w : Nat) (p : Phase n) : State n :=
  { s with workers := s.workers.set w p }

def note {n : Nat} (s : State n) (events : List Event) : State n :=
  { s with journal := s.journal ++ events }

/-- Worker `w` takes the next host, or leaves its loop when there is none. -/
def pull {n : Nat} (s : State n) (w : Nat) : State n :=
  let s' := { s with next := s.next + 1 }
  if h : s.next < n then s'.put w (.holding ⟨s.next, h⟩) else s'.put w .done

/-- Worker `w` reads the token; a host taken after it fired is cancelled. -/
def check {n : Nat} (s : State n) (w : Nat) (i : Fin n) : State n :=
  if s.cancelled then s.put w (.settled i .cancelled) else s.put w (.cleared i)

def start (hosts : HostSet) (s : State hosts.size) (w : Nat) (i : Fin hosts.size) :
    State hosts.size :=
  (s.put w (.running i)).note [.started (hostAt hosts i)]

/-- The operation of worker `w` comes to its end. -/
def finish (policy : Policy) (hosts : HostSet) (s : State hosts.size) (w : Nat)
    (i : Fin hosts.size) (e : Execution) : State hosts.size :=
  let o := e.answer.outcome
  let p := if o.isFailure && !policy.continueOnError then Phase.failing i o else .settled i o
  (s.put w p).note (e.log.map .logged ++ [.executed (hostAt hosts i) e.answer])

/-- Worker `w` fires the token; only the first to do so says so. -/
def fire (hosts : HostSet) (s : State hosts.size) (w : Nat) (i : Fin hosts.size) (o : Outcome) :
    State hosts.size :=
  let s' := { s with cancelled := true }.put w (.settled i o)
  if s.cancelled then s'
  else s'.note [debug s!"host {(hostAt hosts i).id} failed, no new hosts will be started"]

def announce (hosts : HostSet) (s : State hosts.size) (w : Nat) (i : Fin hosts.size)
    (o : Outcome) : State hosts.size :=
  (s.put w (.announced i o)).note [.completed (hostAt hosts i) o]

/-- Worker `w` records an outcome. A refusal is a fault, of which the first is kept. -/
def record (hosts : HostSet) (s : State hosts.size) (w : Nat) (i : Fin hosts.size)
    (o : Outcome) : State hosts.size :=
  match s.collector.record (hostAt hosts i).id o with
  | .ok collector => { s with collector }.put w .idle
  | .error f =>
    ({ s with fault := s.fault.or (some f) }.put w .idle).note
      [.logged ⟨.error, Log.Topic.dispatcher, s!"dispatch bookkeeping fault: {f.message}"⟩]

end State

/-- One step of the pool, if the label fits where its worker stands. -/
def step (policy : Policy) (hosts : HostSet) (s : State hosts.size) :
    Label → Option (State hosts.size)
  | .move w =>
    match s.workers[w]? with
    | some .idle => some (s.pull w)
    | some (.holding i) => some (s.check w i)
    | some (.cleared i) => some (s.start hosts w i)
    | some (.failing i o) => some (s.fire hosts w i o)
    | some (.settled i o) => some (s.announce hosts w i o)
    | some (.announced i o) => some (s.record hosts w i o)
    | _ => none
  | .finish w e =>
    match s.workers[w]? with
    | some (.running i) => some (s.finish policy hosts w i e)
    | _ => none

/-- Steps one after the other, if each fits where its worker stands by then. -/
def steps (policy : Policy) (hosts : HostSet) (s : State hosts.size) (labels : List Label) :
    Option (State hosts.size) :=
  labels.foldlM (step policy hosts) s

end Fanout.Dispatch
