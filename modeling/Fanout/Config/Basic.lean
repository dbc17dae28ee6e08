import Fanout.Cluster
import Fanout.Command.Executor
import Fanout.Dispatch.Policy

/-!
# Cluster files

What a cluster file says: the members of a cluster, how dispatches run, and how the ssh client is
called. A file that is well formed may still describe no cluster; `invalid?` finds the first rule
that it breaks.
-/
namespace Fanout

structure CoordinatorEntry where
  hostname : String
  port : Option UInt16
  dataDir : Option String
  deriving DecidableEq

structure SegmentEntry where
  content : Int32
  role : Role
  hostname : String
  port : UInt16
  dataDir : Option String
  deriving DecidableEq

/-- How dispatches run where the command line does not say otherwise. -/
structure DispatchSettings where
  jobs : UInt64
  continueOnError : Bool
  retries : UInt32
  deriving DecidableEq

def DispatchSettings.default : DispatchSettings := ⟨16, true, 0⟩

structure Config where
  coordinator : Option CoordinatorEntry
  segments : List SegmentEntry
  dispatch : DispatchSettings
  ssh : SshSettings
  deriving DecidableEq

/-- A rule that a cluster file breaks. -/
inductive LayoutError where
  | noJobs
  | blankCoordinator
  | blankHostname (content : Int32)
  | negativeContent (s : SegmentEntry)
  | coordinatorRole (s : SegmentEntry)
  | repeatedEndpoint (s : SegmentEntry)
  | repeatedRole (s : SegmentEntry)
  deriving DecidableEq

/-- The place where a segment listens, as it is told. -/
def SegmentEntry.endpoint (s : SegmentEntry) : String :=
  endpointId s.hostname s.port

def LayoutError.message : LayoutError → String
  | .noJobs => "dispatch.jobs must be at least 1"
  | .blankCoordinator => "coordinator hostname cannot be empty"
  | .blankHostname c => s!"segment {c.toInt} has an empty hostname"
  | .negativeContent s => s!"segment {s.endpoint} has negative content id {s.content.toInt}"
  | .coordinatorRole s => s!"segment {s.endpoint} cannot have role coordinator"
  | .repeatedEndpoint s => s!"{s.endpoint} is listed more than once"
  | .repeatedRole s => s!"content {s.content.toInt} has more than one {s.role.name}"

/-- Where a member listens: a hostname and, if it has one, a port. -/
abbrev Endpoint := String × Option UInt16

/-- The first rule that a segment breaks, by itself or against the entries before it. -/
def SegmentEntry.invalid? (s : SegmentEntry) (endpoints : List Endpoint)
    (roles : List (Int32 × Role)) : Option LayoutError :=
  if Text.isBlankText s.hostname then some (.blankHostname s.content)
  else if s.content < 0 then some (.negativeContent s)
  else if s.role = .coordinator then some (.coordinatorRole s)
  else if (s.hostname, some s.port) ∈ endpoints then some (.repeatedEndpoint s)
  else if (s.content, s.role) ∈ roles then some (.repeatedRole s)
  else none

/-- The first rule that one of some segments breaks, after the entries already seen. -/
def firstInvalid (endpoints : List Endpoint) (roles : List (Int32 × Role)) :
    List SegmentEntry → Option LayoutError
  | [] => none
  | s :: ss =>
    match s.invalid? endpoints roles with
    | some e => some e
    | none => firstInvalid ((s.hostname, some s.port) :: endpoints) ((s.content, s.role) :: roles) ss

namespace Config

/-- The first rule the file breaks. -/
def invalid? (c : Config) : Option LayoutError :=
  if c.dispatch.jobs = 0 then some .noJobs
  else match c.coordinator with
    | some k =>
      if Text.isBlankText k.hostname then some .blankCoordinator
      else firstInvalid [(k.hostname, k.port)] [] c.segments
    | none => firstInvalid [] [] c.segments

/-- The members the file lists. -/
def cluster (c : Config) : Cluster :=
  let coordinator := c.coordinator.map fun k =>
    let h := Host.coordinator k.hostname
    let h := k.port.elim h h.withPort
    k.dataDir.elim h h.withDataDir
  let segments := c.segments.map fun s =>
    let h := Host.segment s.content s.role s.hostname s.port
    s.dataDir.elim h h.withDataDir
  ⟨coordinator, segments⟩

/-- The policy of a dispatch: that of the file, unless the command line overrides it. -/
def policy (c : Config) (jobs : Option UInt64) (failFast : Bool) : Policy :=
  ⟨c.dispatch.continueOnError && !failFast, jobs.getD c.dispatch.jobs⟩

end Config

end Fanout
