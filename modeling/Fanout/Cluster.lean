import Fanout.Host.Set

/-!
# Clusters and selections

The members of a cluster, and which of them a dispatch covers: every segment instance, or every
machine once, with or without the coordinator and the mirrors. A machine is stood for by the first
member selected on it, known by the bare hostname.
-/
namespace Fanout

/-- What one place in a dispatch stands for. -/
inductive Target where
  /-- One execution per segment instance. -/
  | segments
  /-- One execution per distinct hostname. -/
  | hosts
  deriving DecidableEq, Repr

namespace Target

def name : Target → String
  | .segments => "segments"
  | .hosts => "hosts"

def ofName? (name : String) : Option Target :=
  [Target.segments, .hosts].find? fun t => t.name = name

/-- The name as a word of the program's vocabulary of types. -/
def title : Target → String
  | .segments => "Segments"
  | .hosts => "Hosts"

instance : Inhabited Target := ⟨.segments⟩

end Target

/-- Which members a dispatch covers. -/
structure Scope where
  target : Target
  coordinator : Bool
  mirrors : Bool
  deriving DecidableEq

structure Cluster where
  coordinator : Option Host
  segments : List Host

/-- The first host of each hostname not yet seen, known by that hostname. -/
def onePerMachine (seen : List String) : List Host → List Host
  | [] => []
  | h :: hs =>
    if h.hostname ∈ seen then onePerMachine seen hs
    else h.withId h.hostname :: onePerMachine (h.hostname :: seen) hs

/-- Puts a number into a strictly increasing list. -/
def insertContent (c : Int32) : List Int32 → List Int32
  | [] => [c]
  | d :: ds => if c < d then c :: d :: ds else if c = d then d :: ds else d :: insertContent c ds

namespace Cluster

/-- The members a scope covers: the coordinator first, then segments as listed. -/
def members (c : Cluster) (scope : Scope) : List Host :=
  (if scope.coordinator then c.coordinator.toList else []) ++
    c.segments.filter fun s => s.role ≠ .mirror || scope.mirrors

/-- The hosts of a selection, before their ids are compared. -/
def candidates (c : Cluster) (scope : Scope) : List Host :=
  match scope.target with
  | .segments => c.members scope
  | .hosts => onePerMachine [] (c.members scope)

def select (c : Cluster) (scope : Scope) : Except Fault HostSet :=
  HostSet.ofList (c.candidates scope)

/-- The content ids of primary segments, increasing, each once. -/
def contentIds (c : Cluster) : List Int32 :=
  (c.segments.filter fun s => s.role = .primary).filterMap Host.content
    |>.foldr insertContent []

end Cluster

end Fanout
