import Fanout.Outcome.Basic

/-!
# Outcomes by host

The outcomes of one dispatch, one per host id, in increasing order of the ids' UTF-8 octets. The
order belongs to the type, so nothing that is read off a map depends on when hosts finished.
-/
namespace Fanout

/-- Each id stands before all later ones. -/
def Ascending (entries : List (String × Outcome)) : Prop :=
  entries.Pairwise fun a b => a.1 < b.1

/-- Puts an outcome in its place, over one that the id has already. -/
def insertOutcome (id : String) (o : Outcome) :
    List (String × Outcome) → List (String × Outcome)
  | [] => [(id, o)]
  | e :: es =>
    if id < e.1 then (id, o) :: e :: es
    else if e.1 < id then e :: insertOutcome id o es
    else (id, o) :: es

theorem mem_insertOutcome {id : String} {o : Outcome} {es : List (String × Outcome)}
    {x : String × Outcome} (h : x ∈ insertOutcome id o es) : x = (id, o) ∨ x ∈ es := by
  induction es with
  | nil => simpa [insertOutcome] using h
  | cons e es ih =>
    simp only [insertOutcome] at h
    split at h
    · simpa using h
    · split at h
      · rcases List.mem_cons.mp h with rfl | h
        · exact .inr List.mem_cons_self
        · exact (ih h).imp_right (List.mem_cons_of_mem _)
      · rcases List.mem_cons.mp h with rfl | h
        · exact .inl rfl
        · exact .inr (List.mem_cons_of_mem _ h)

theorem Ascending.insertOutcome {id : String} {o : Outcome} {es : List (String × Outcome)}
    (h : Ascending es) : Ascending (insertOutcome id o es) := by
  unfold Ascending at h ⊢
  induction es with
  | nil => simp [Fanout.insertOutcome]
  | cons e es ih =>
    obtain ⟨he, hes⟩ := List.pairwise_cons.mp h
    simp only [Fanout.insertOutcome]
    split
    · rename_i hlt
      refine List.pairwise_cons.mpr ⟨fun x hx => ?_, h⟩
      rcases List.mem_cons.mp hx with rfl | hx
      · exact hlt
      · exact String.lt_trans hlt (he x hx)
    · split
      · rename_i hgt
        refine List.pairwise_cons.mpr ⟨fun x hx => ?_, ih hes⟩
        rcases mem_insertOutcome hx with rfl | hx
        · exact hgt
        · exact he x hx
      · rename_i hnlt hngt
        have hid : id = e.1 :=
          String.le_antisymm (String.not_lt.mp hngt) (String.not_lt.mp hnlt)
        exact List.pairwise_cons.mpr ⟨fun x hx => hid ▸ he x hx, hes⟩

/-- The outcomes of a dispatch. -/
structure Outcomes where
  entries : List (String × Outcome)
  ascending : Ascending entries

/-- How many outcomes of each kind there are. -/
structure Summary where
  succeeded : Nat
  failed : Nat
  cancelled : Nat
  deriving DecidableEq

namespace Summary

def total (s : Summary) : Nat := s.succeeded + s.failed + s.cancelled

/-- Failures of any kind. -/
def failures (s : Summary) : Nat := s.failed + s.cancelled

def isSuccess (s : Summary) : Bool := s.failures == 0

def add (s : Summary) : Outcome → Summary
  | .success _ => { s with succeeded := s.succeeded + 1 }
  | .failed _ => { s with failed := s.failed + 1 }
  | .cancelled => { s with cancelled := s.cancelled + 1 }

end Summary

/-- Where a dispatch stands. -/
inductive Status where
  | pending
  | running
  | allSucceeded
  | partialFailure
  | totalFailure
  | cancelled
  deriving DecidableEq, Repr

namespace Status

def all : List Status :=
  [.pending, .running, .allSucceeded, .partialFailure, .totalFailure, .cancelled]

def name : Status → String
  | .pending => "pending"
  | .running => "running"
  | .allSucceeded => "all_succeeded"
  | .partialFailure => "partial_failure"
  | .totalFailure => "total_failure"
  | .cancelled => "cancelled"

def ofName? (name : String) : Option Status :=
  all.find? fun s => s.name = name

def isTerminal : Status → Bool
  | .pending | .running => false
  | _ => true

def isSuccess : Status → Bool
  | .allSucceeded => true
  | _ => false

end Status

namespace Outcomes

def empty : Outcomes := ⟨[], List.Pairwise.nil⟩

def insert (m : Outcomes) (id : String) (o : Outcome) : Outcomes :=
  ⟨insertOutcome id o m.entries, m.ascending.insertOutcome⟩

/-- The map of some pairs; of two with one id the later counts. -/
def ofList (pairs : List (String × Outcome)) : Outcomes :=
  pairs.foldl (fun m e => m.insert e.1 e.2) empty

def size (m : Outcomes) : Nat := m.entries.length

def ids (m : Outcomes) : List String := m.entries.map Prod.fst

def get? (m : Outcomes) (id : String) : Option Outcome :=
  m.entries.lookup id

def succeeded (m : Outcomes) : List String :=
  (m.entries.filter fun e => e.2.isSuccess).map Prod.fst

/-- Hosts that ran and failed, with their errors. -/
def failed (m : Outcomes) : List (String × String) :=
  m.entries.filterMap fun e => e.2.error?.map fun error => (e.1, error)

def cancelled (m : Outcomes) : List String :=
  (m.entries.filter fun e => e.2.isCancelled).map Prod.fst

def summary (m : Outcomes) : Summary :=
  m.entries.foldl (fun s e => s.add e.2) ⟨0, 0, 0⟩

/-- The status a finished dispatch ends in. -/
def status (m : Outcomes) : Status :=
  let s := m.summary
  if s.cancelled > 0 then .cancelled
  else if s.failed = 0 then .allSucceeded
  else if s.succeeded = 0 then .totalFailure
  else .partialFailure

end Outcomes

end Fanout
